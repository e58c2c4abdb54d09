import RelayPool.JsonText
import RelayPool.Protocol.Event

/-! The scan of a JSON text before it is parsed (`services/proxy/diagnostic_memory.rs`).

The scan knows strings and structural bytes only. What a piece of a JSON text does to its two
counters does not depend on what stands around it (`Counted`), so that the pieces compose along
the grammar, and the scan of a whole document is within the limit if and only if its depth and
its containers, commas and colons are (`json_complexity_conservative`). -/
namespace RelayPool.Protocol
open JsonText

/-- The scan outside of a string. -/
def scan (depth nodes : Nat) (body : Bytes) : JsonComplexity :=
  jsonComplexityFrom false false depth nodes body

variable {d n : Nat} {bytes rest : Bytes} {byte : UInt8}

/-! ### Bytes outside of strings -/

/-- A byte that the scan passes over. -/
def Inert (byte : UInt8) : Prop := byte ∉ [(34 : UInt8), 44, 58, 91, 93, 123, 125]

theorem scan_inert (inert : Inert byte) (nodes : n ≤ maxDiagnosticJsonNodes) :
    scan d n (byte :: rest) = scan d n rest := by
  simp only [Inert, List.mem_cons, List.not_mem_nil, or_false, not_or] at inert
  obtain ⟨quote, comma, colon, openArray, closeArray, openObject, closeObject⟩ := inert
  simp [scan, jsonComplexityFrom, *]

theorem scan_open (opens : byte = 123 ∨ byte = 91) : scan d n (byte :: rest) = .withinLimit ↔
    d + 1 ≤ maxDiagnosticJsonDepth ∧ n + 1 ≤ maxDiagnosticJsonNodes ∧
      scan (d + 1) (n + 1) rest = .withinLimit := by
  have notQuote : byte ≠ 34 := by
    rcases opens with rfl | rfl <;> decide
  rw [scan, jsonComplexityFrom]
  simp only [opens, true_or, if_true, true_and, notQuote, decide_false, Bool.false_eq_true,
    if_false]
  split
  · rename_i deep
    exact iff_of_false nofun fun within => Nat.not_le.mpr deep within.1
  split
  · rename_i deep complex
    exact iff_of_false nofun fun within => Nat.not_le.mpr complex within.2.1
  · rename_i deep complex
    rw [and_iff_right (Nat.not_lt.mp deep), and_iff_right (Nat.not_lt.mp complex)]
    rfl

theorem scan_close (closes : byte = 125 ∨ byte = 93) (nodes : n ≤ maxDiagnosticJsonNodes) :
    scan (d + 1) n (byte :: rest) = scan d n rest := by
  rcases closes with rfl | rfl <;> simp [scan, jsonComplexityFrom, nodes]

theorem scan_separator (separator : byte = 44 ∨ byte = 58) :
    scan d n (byte :: rest) = .withinLimit ↔
      n + 1 ≤ maxDiagnosticJsonNodes ∧ scan d (n + 1) rest = .withinLimit := by
  have step : scan d n (byte :: rest) =
      if maxDiagnosticJsonNodes < n + 1 then .tooComplex else scan d (n + 1) rest := by
    rcases separator with rfl | rfl <;> simp [scan, jsonComplexityFrom]
  rw [step]
  split
  · rename_i complex
    exact iff_of_false nofun fun within => Nat.not_le.mpr complex within.1
  · rename_i complex
    exact (and_iff_right (Nat.not_lt.mp complex)).symm

/-! ### Strings -/

/-- Whatever stands in a string, the scan is still inside of it afterwards. -/
theorem scan_part (part : StringPart) :
    jsonComplexityFrom true false d n (part.spelled ++ rest) =
      jsonComplexityFrom true false d n rest := by
  cases part with
  | plain byte plain =>
    simp [StringPart.spelled, jsonComplexityFrom, plain.2.1, plain.2.2]
  | escape byte escape => simp [StringPart.spelled, jsonComplexityFrom]
  | unicode first second third fourth =>
    have hex (digit : HexDigit) : digit.byte ≠ 92 ∧ digit.byte ≠ 34 := by
      obtain ⟨byte, digit⟩ := digit
      constructor
      · rintro rfl
        revert digit
        decide
      · rintro rfl
        revert digit
        decide
    simp [StringPart.spelled, jsonComplexityFrom, hex]

theorem scan_quoted (parts : List StringPart) (nodes : n ≤ maxDiagnosticJsonNodes) :
    scan d n (quoted parts ++ rest) = scan d n rest := by
  have inside : jsonComplexityFrom true false d n ((parts.map (·.spelled)).flatten ++ 34 :: rest) =
      scan d n rest := by
    induction parts with
    | nil => simp [scan, jsonComplexityFrom]
    | cons part parts ih =>
      rw [List.map_cons, List.flatten_cons, List.append_assoc, scan_part]
      exact ih
  rw [quoted, List.append_assoc, List.cons_append, List.singleton_append, scan,
    jsonComplexityFrom]
  simpa [Nat.not_lt.mpr nodes] using inside

/-! ### Pieces of a text -/

/-- What a piece of a text does to the counters, wherever it stands. -/
def Counted (spelled : Bytes) (depth tokens : Nat) : Prop :=
  ∀ d n rest, d ≤ maxDiagnosticJsonDepth → n ≤ maxDiagnosticJsonNodes →
    (scan d n (spelled ++ rest) = .withinLimit ↔ d + depth ≤ maxDiagnosticJsonDepth ∧
      n + tokens ≤ maxDiagnosticJsonNodes ∧ scan d (n + tokens) rest = .withinLimit)

variable {depth depth' tokens tokens' : Nat} {bytes' : Bytes}

/-- A piece that the scan passes over. -/
theorem Counted.of_eq
    (same : ∀ d n rest, n ≤ maxDiagnosticJsonNodes → scan d n (bytes ++ rest) = scan d n rest) :
    Counted bytes 0 0 := by
  intro d n rest fits nodes
  rw [same d n rest nodes]
  exact ((and_iff_right fits).trans (and_iff_right nodes)).symm

theorem Counted.inert (inert : ∀ byte ∈ bytes, Inert byte) : Counted bytes 0 0 := by
  refine .of_eq fun d n rest nodes => ?_
  induction bytes with
  | nil => rfl
  | cons byte bytes ih =>
    obtain ⟨first, others⟩ := List.forall_mem_cons.mp inert
    rw [List.cons_append, scan_inert first nodes, ih others]

theorem Counted.quoted (parts : List StringPart) : Counted (quoted parts) 0 0 :=
  .of_eq fun _ _ _ nodes => scan_quoted parts nodes

theorem Counted.separator (separator : byte = 44 ∨ byte = 58) : Counted [byte] 0 1 := by
  intro d n rest fits _
  rw [List.singleton_append, scan_separator separator]
  exact (and_iff_right fits).symm

theorem Counted.append (first : Counted bytes depth tokens)
    (second : Counted bytes' depth' tokens') :
    Counted (bytes ++ bytes') (max depth depth') (tokens + tokens') := by
  intro d n rest fits nodes
  rw [List.append_assoc, first d n _ fits nodes]
  constructor
  · rintro ⟨shallow, few, within⟩
    obtain ⟨shallow', few', within'⟩ := (second d _ rest fits few).mp within
    exact ⟨by omega, by omega, by rwa [← Nat.add_assoc]⟩
  · rintro ⟨shallow, few, within⟩
    have few' : n + tokens ≤ maxDiagnosticJsonNodes := by omega
    refine ⟨by omega, few', (second d _ rest fits few').mpr ⟨by omega, by omega, ?_⟩⟩
    rwa [Nat.add_assoc]

/-- A container and what is in it. -/
theorem Counted.enclosed {opening closing : UInt8} (opens : opening = 123 ∨ opening = 91)
    (closes : closing = 125 ∨ closing = 93) (inside : Counted bytes depth tokens) :
    Counted (opening :: bytes ++ [closing]) (depth + 1) (tokens + 1) := by
  intro d n rest fits nodes
  rw [List.cons_append, List.cons_append, List.append_assoc, List.singleton_append,
    scan_open opens]
  have sum : n + (tokens + 1) = n + 1 + tokens := by omega
  rw [sum]
  constructor
  · rintro ⟨shallow, few, within⟩
    obtain ⟨shallow', few', within'⟩ := (inside _ _ _ shallow few).mp within
    exact ⟨by omega, few', by rwa [scan_close closes few'] at within'⟩
  · rintro ⟨shallow, few, within⟩
    have shallow' : d + 1 ≤ maxDiagnosticJsonDepth := by omega
    have few' : n + 1 ≤ maxDiagnosticJsonNodes := by omega
    refine ⟨shallow', few', (inside _ _ _ shallow' few').mpr ⟨by omega, few, ?_⟩⟩
    rwa [scan_close closes few]

/-! ### The grammar -/

theorem inert_blank {byte : UInt8} (blank : byte = 32 ∨ byte = 9 ∨ byte = 10 ∨ byte = 13) :
    Inert byte := by
  rcases blank with rfl | rfl | rfl | rfl <;> simp [Inert]

theorem Counted.blanks (blanks : Blanks) : Counted blanks.bytes 0 0 :=
  .inert fun byte mem => inert_blank (blanks.blank byte mem)

theorem inert_digit {byte : UInt8} (digit : 48 ≤ byte ∧ byte ≤ 57) : Inert byte := by
  intro mem
  simp only [List.mem_cons, List.not_mem_nil, or_false] at mem
  rcases mem with rfl | rfl | rfl | rfl | rfl | rfl | rfl <;> revert digit <;> decide

theorem inert_digits (digits : Digits) : ∀ byte ∈ digits.bytes, Inert byte :=
  fun byte mem => inert_digit (digits.digits byte mem)

theorem inert_number (number : Number) : ∀ byte ∈ number.spelled, Inert byte := by
  obtain ⟨minus, integer, canonical, fraction, exponent⟩ := number
  have sign : ∀ byte ∈ (if minus then [45] else [] : Bytes), Inert byte := by
    cases minus <;> simp [Inert]
  have dot : Inert 46 := by simp [Inert]
  have fractional : ∀ byte ∈ (fraction.toList.map fun digits => 46 :: digits.bytes).flatten,
      Inert byte := by
    cases fraction with
    | none => simp
    | some digits => simpa using ⟨dot, inert_digits digits⟩
  have exponential : ∀ byte ∈ (exponent.toList.map (·.spelled)).flatten, Inert byte := by
    cases exponent with
    | none => simp
    | some exponent =>
      obtain ⟨upper, sign, digits⟩ := exponent
      have letter : Inert (if upper then 69 else 101) := by
        cases upper <;> simp [Inert]
      have sign : ∀ byte ∈ sign.toList.map (fun minus => if minus then (45 : UInt8) else 43),
          Inert byte := by
        rcases sign with _ | _ | _ <;> simp [Inert]
      simp only [Option.toList_some, List.map_cons, List.map_nil, List.flatten_cons,
        List.flatten_nil, List.append_nil, Exponent.spelled]
      exact List.forall_mem_cons.mpr
        ⟨letter, List.forall_mem_append.mpr ⟨sign, inert_digits digits⟩⟩
  unfold Number.spelled
  exact List.forall_mem_append.mpr ⟨List.forall_mem_append.mpr
    ⟨List.forall_mem_append.mpr ⟨sign, inert_digits integer⟩, fractional⟩, exponential⟩

theorem inert_literal (literal : Literal) : ∀ byte ∈ literal.spelled, Inert byte := by
  cases literal <;> simp [Literal.spelled, Inert]

mutual

theorem counted_value : ∀ value : JsonText.Value,
    Counted value.spelled value.depth value.tokens
  | .literal literal => .inert (inert_literal literal)
  | .number number => .inert (inert_number number)
  | .string parts => .quoted parts
  | .emptyArray inside => .enclosed (.inr rfl) (.inr rfl) (.blanks inside)
  | .array elements => .enclosed (.inr rfl) (.inr rfl) (counted_elements elements)
  | .emptyObject inside => .enclosed (.inl rfl) (.inl rfl) (.blanks inside)
  | .object members => .enclosed (.inl rfl) (.inl rfl) (counted_members members)

theorem counted_element : ∀ element : Element,
    Counted element.spelled element.depth element.tokens
  | .mk before value after => by
    have all := ((Counted.blanks before).append (counted_value value)).append (.blanks after)
    rw [Nat.zero_max, Nat.max_zero, Nat.zero_add, Nat.add_zero] at all
    exact all

theorem counted_elements : ∀ elements : Elements,
    Counted elements.spelled elements.depth elements.tokens
  | .last element => counted_element element
  | .cons element rest => by
    have all := ((counted_element element).append (.separator (.inl rfl))).append
      (counted_elements rest)
    rw [Nat.max_zero] at all
    exact all

theorem counted_member : ∀ member : Member,
    Counted member.spelled member.depth member.tokens
  | .mk before name after element => by
    have all := ((((Counted.blanks before).append (.quoted name)).append (.blanks after)).append
      (.separator (.inr rfl))).append (counted_element element)
    rw [Nat.max_self, Nat.max_self, Nat.max_self, Nat.zero_max] at all
    exact all

theorem counted_members : ∀ members : Members,
    Counted members.spelled members.depth members.tokens
  | .last member => counted_member member
  | .cons member rest => by
    have all := ((counted_member member).append (.separator (.inl rfl))).append
      (counted_members rest)
    rw [Nat.max_zero] at all
    exact all

end

/-! ### Whole documents -/

theorem jsonComplexity_iff (document : Document) :
    jsonComplexity document.spelled = .withinLimit ↔
      document.depth ≤ maxDiagnosticJsonDepth ∧ 1 + document.tokens ≤ maxDiagnosticJsonNodes := by
  have counted := counted_element document 0 1 [] (Nat.zero_le _) (by decide)
  rw [List.append_nil, Nat.zero_add] at counted
  exact counted.trans (and_congr_right fun _ => and_iff_left rfl)

/-- The scan lets through the documents whose depth and whose containers, commas and colons are
within its limits, whatever their strings say, and no others; the values of what it lets through
are within its limit too. -/
theorem json_complexity_conservative (document : Document) :
    (jsonComplexity document.spelled = .withinLimit →
      document.depth ≤ maxDiagnosticJsonDepth ∧ document.values ≤ maxDiagnosticJsonNodes) ∧
    (jsonComplexity document.spelled = .withinLimit ↔
      document.depth ≤ maxDiagnosticJsonDepth ∧
        1 + document.tokens ≤ maxDiagnosticJsonNodes) := by
  refine ⟨fun within => ?_, jsonComplexity_iff document⟩
  obtain ⟨shallow, few⟩ := (jsonComplexity_iff document).mp within
  exact ⟨shallow, (Element.values_le document).trans few⟩

end RelayPool.Protocol
