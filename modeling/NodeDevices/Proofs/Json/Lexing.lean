import NodeDevices.Json.Lexer
import NodeDevices.Json.Printer
import NodeDevices.Proofs.Text.Decimal

/-! Written tokens are read back as they were. A number is the only token whose end its own
characters do not show, so it must be followed by a character that cannot go on with it. How many
digits it has does not matter, nor whether a string can be kept.
-/

namespace NodeDevices.Json

open Text.Decimal

/-- The token is written as it is: its text is whole, or its number an integer. -/
def Token.IsPlain : Token → Prop
  | .num number => number.tail = []
  | .str text => text.isSome
  | _ => True

/-- The text is a fraction, or nothing. -/
def IsFraction (text : List Char) : Prop :=
  text = [] ∨ ∃ run, run ≠ [] ∧ (∀ c ∈ run, c.isDigit = true) ∧ text = '.' :: run

/-- The text is an exponent, or nothing. -/
def IsExponent (text : List Char) : Prop :=
  text = []
  ∨ ∃ mark sign run,
      (mark = 'e' ∨ mark = 'E')
      ∧ (sign = [] ∨ sign = ['+'] ∨ sign = ['-'])
      ∧ run ≠ []
      ∧ (∀ c ∈ run, c.isDigit = true)
      ∧ text = mark :: (sign ++ run)

/-- The number has the spelling of a JSON number, of any length. -/
def Number.IsSpelled (number : Number) : Prop :=
  ∃ fraction exponent,
    IsFraction fraction ∧ IsExponent exponent ∧ number.tail = fraction ++ exponent

/-- The token can be written: if it is a number, it has the spelling of one. -/
def Token.IsSpelled : Token → Prop
  | .num number => number.IsSpelled
  | _ => True

theorem Token.IsPlain.isSpelled {token : Token} (plain : token.IsPlain) : token.IsSpelled := by
  cases token with
  | num number => exact ⟨[], [], Or.inl rfl, Or.inl rfl, plain⟩
  | _ => trivial

/-- The token ends a value, or separates it from the next. -/
def Token.IsDelimiter (token : Token) : Prop :=
  token = .comma ∨ token = .closeArray ∨ token = .closeObject

/-- Numbers are followed by delimiters, or by nothing. -/
def Separated : List Token → Prop
  | [] => True
  | .num _ :: rest => (∀ token ∈ rest.head?, token.IsDelimiter) ∧ Separated rest
  | _ :: rest => Separated rest

-----------------------------------------------------------------------------------------
-- Strings
-----------------------------------------------------------------------------------------

theorem hexValue?_hexDigit_below : ∀ n < 16, hexValue? (hexDigit n) = some n := by
  decide

/-- The four digits that a control character is written with give its number back. -/
theorem hex4?_hexDigit {n : Nat} (below : n < 256)
    : hex4? '0' '0' (hexDigit (n / 16)) (hexDigit (n % 16)) = some n := by
  have high := hexValue?_hexDigit_below (n / 16) (by omega)
  have low := hexValue?_hexDigit_below (n % 16) (by omega)
  have zero : hexValue? '0' = some 0 := by decide
  rw [hex4?, high, low, zero]
  simp only [Option.bind_eq_bind, Option.bind_some, Option.pure_def, Option.some.injEq]
  omega

theorem pieces?_quote (rest : List Char) : pieces? ('"' :: rest) = some ([], rest) := by
  rw [pieces?.eq_def]
  rfl

/-- A short escape stands for one character. -/
theorem pieces?_short {letter c : Char} (short : shortEscape? letter = some c)
    (text : List Char)
    : pieces? ('\\' :: letter :: text)
      = (pieces? text).map fun read => (.char c :: read.1, read.2) := by
  have different : letter ≠ 'u' := by
    rintro rfl
    cases short
  rw [pieces?.eq_def]
  simp only [Char.reduceEq, if_false, if_true, different, short]
  cases pieces? text <;> rfl

/-- Four hexadecimal digits stand for a code unit. -/
theorem pieces?_unit {h1 h2 h3 h4 : Char} {code : Nat} (digits : hex4? h1 h2 h3 h4 = some code)
    (text : List Char)
    : pieces? ('\\' :: 'u' :: h1 :: h2 :: h3 :: h4 :: text)
      = (pieces? text).map fun read => (.unit code :: read.1, read.2) := by
  rw [pieces?.eq_def]
  simp only [Char.reduceEq, if_false, if_true, digits]
  cases pieces? text <;> rfl

/-- Any other character stands for itself. -/
theorem pieces?_char {c : Char} (noQuote : c ≠ '"') (noEscape : c ≠ '\\')
    (printable : ¬ c.toNat < 32) (text : List Char)
    : pieces? (c :: text) = (pieces? text).map fun read => (.char c :: read.1, read.2) := by
  rw [pieces?.eq_def]
  simp only [noQuote, noEscape, printable, if_false]
  cases pieces? text <;> rfl

/-- The piece stands for a character wherever it is. -/
def Piece.Is (piece : Piece) (c : Char) : Prop :=
  piece = .char c ∨ piece = .unit c.toNat ∧ c.toNat < 0xD800

/-- An escaped character is read as one piece, which is that character. -/
theorem pieces?_escape (c : Char) (text : List Char)
    : ∃ piece : Piece,
        piece.Is c
        ∧ pieces? (escape c ++ text)
          = (pieces? text).map fun read => (piece :: read.1, read.2) := by
  have named {code : Nat} (same : c.toNat = code) : c = Char.ofNat code := by
    rw [← same, Char.ofNat_toNat]
  unfold escape
  split
  · next quote => exact ⟨.char c, Or.inl rfl, pieces?_short (by rw [quote]; rfl) text⟩
  split
  · next slash => exact ⟨.char c, Or.inl rfl, pieces?_short (by rw [slash]; rfl) text⟩
  split
  · next backspace => exact ⟨.char c, Or.inl rfl, pieces?_short (by rw [named backspace]; rfl) text⟩
  split
  · next feed => exact ⟨.char c, Or.inl rfl, pieces?_short (by rw [named feed]; rfl) text⟩
  split
  · next line => exact ⟨.char c, Or.inl rfl, pieces?_short (by rw [line]; rfl) text⟩
  split
  · next carriage => exact ⟨.char c, Or.inl rfl, pieces?_short (by rw [carriage]; rfl) text⟩
  split
  · next tab => exact ⟨.char c, Or.inl rfl, pieces?_short (by rw [tab]; rfl) text⟩
  split
  · next control =>
      exact ⟨.unit c.toNat, Or.inr ⟨rfl, by omega⟩, pieces?_unit (hex4?_hexDigit (by omega)) text⟩
  · next noQuote noEscape _ _ _ _ _ printable =>
      exact ⟨.char c, Or.inl rfl, pieces?_char noQuote noEscape printable text⟩

/-- Pieces that stand for characters are put together to them. -/
theorem assemble?_cons {piece : Piece} {c : Char} (stands : piece.Is c) (rest : List Piece)
    : assemble? (piece :: rest) = (assemble? rest).map (c :: ·) := by
  rcases stands with rfl | ⟨rfl, low⟩
  · rw [assemble?]
  · rw [assemble?.eq_def]
    simp only [show ¬ (0xD800 ≤ c.toNat ∧ c.toNat < 0xDC00) by omega,
      show ¬ (0xDC00 ≤ c.toNat ∧ c.toNat < 0xE000) by omega, if_false, Char.ofNat_toNat]

/-- An escaped text is read up to its closing quote, and is the same again. -/
theorem pieces?_escaped (text rest : List Char)
    : ∃ pieces,
        pieces? (text.flatMap escape ++ '"' :: rest) = some (pieces, rest)
        ∧ assemble? pieces = some text := by
  induction text with
  | nil => exact ⟨[], pieces?_quote rest, rfl⟩
  | cons c text ih =>
      obtain ⟨pieces, read, assembled⟩ := ih
      obtain ⟨piece, stands, escaped⟩ := pieces?_escape c (text.flatMap escape ++ '"' :: rest)
      refine ⟨piece :: pieces, ?_, ?_⟩
      · rw [List.flatMap_cons, List.append_assoc, escaped, read]
        rfl
      · rw [assemble?_cons stands, assembled]
        rfl

-----------------------------------------------------------------------------------------
-- Numbers
-----------------------------------------------------------------------------------------

/-- The text cannot go on with a number. -/
def EndsNumber (text : List Char) : Prop :=
  ∀ c rest, text = c :: rest → c.isDigit = false ∧ c ≠ '.' ∧ c ≠ 'e' ∧ c ≠ 'E'

theorem EndsNumber.startsWithNoDigit {text : List Char} (ends : EndsNumber text)
    : StartsWithNoDigit text :=
  fun c rest same => (ends c rest same).1

/-- An exponent is read up to its end. -/
theorem exponent?_append {exponent rest : List Char} (spelled : IsExponent exponent)
    (ends : EndsNumber rest)
    : exponent? (exponent ++ rest) = some (exponent, rest) := by
  rcases spelled with rfl | ⟨mark, sign, run, marked, signed, some_digit, digits, rfl⟩
  · rw [List.nil_append, exponent?.eq_def]
    split
    · next e others =>
        obtain ⟨_, _, lower, upper⟩ := ends e others rfl
        rw [if_neg (not_or.mpr ⟨lower, upper⟩)]
    · rfl
  · have scanned : spanDigits (run ++ rest) = (run, rest) :=
      spanDigits_append digits ends.startsWithNoDigit
    have read (before : List Char)
        : exponentDigits? before (run ++ rest) = some (before ++ run, rest) := by
      rw [exponentDigits?, scanned]
      exact if_neg some_digit
    rw [List.cons_append, exponent?.eq_def]
    dsimp only
    rw [if_pos marked]
    rcases signed with rfl | rfl | rfl
    · obtain ⟨first, others, rfl⟩ := List.exists_cons_of_ne_nil some_digit
      have noSign : ¬ (first = '+' ∨ first = '-') := by
        have digit := digits first List.mem_cons_self
        rintro (rfl | rfl) <;> cases digit
      rw [List.nil_append, List.cons_append]
      dsimp only
      rw [if_neg noSign]
      exact read [mark]
    · exact read [mark, '+']
    · exact read [mark, '-']

/-- A fraction is read up to its end. -/
theorem fraction?_append {fraction rest : List Char} (spelled : IsFraction fraction)
    (ends : StartsWithNoDigit rest) (noPoint : ∀ others, rest ≠ '.' :: others)
    : fraction? (fraction ++ rest) = some (fraction, rest) := by
  rcases spelled with rfl | ⟨run, some_digit, digits, rfl⟩
  · rw [List.nil_append, fraction?.eq_def]
    split
    · next others => exact absurd rfl (noPoint others)
    · rfl
  · have scanned : spanDigits (run ++ rest) = (run, rest) := spanDigits_append digits ends
    rw [List.cons_append, fraction?, scanned]
    exact if_neg some_digit

/-- What goes on a number with neither a digit nor a point before its exponent. -/
theorem starts_exponent_append {exponent rest : List Char} (spelled : IsExponent exponent)
    (ends : EndsNumber rest)
    : StartsWithNoDigit (exponent ++ rest) ∧ ∀ others, exponent ++ rest ≠ '.' :: others := by
  rcases spelled with rfl | ⟨mark, sign, run, marked, _, _, _, rfl⟩
  · refine ⟨ends.startsWithNoDigit, ?_⟩
    intro others same
    exact (ends '.' others same).2.1 rfl
  · rw [List.cons_append, startsWithNoDigit_cons]
    rcases marked with rfl | rfl
    · exact ⟨rfl, by simp⟩
    · exact ⟨rfl, by simp⟩

/-- A number is read up to its end. -/
theorem number?_digits (negative : Bool) (whole : Nat) {tail rest : List Char}
    (spelled : Number.IsSpelled ⟨negative, whole, tail⟩) (ends : EndsNumber rest)
    : number? negative (digits whole ++ (tail ++ rest))
      = some (⟨negative, whole, tail⟩, rest) := by
  obtain ⟨fraction, exponent, pointed, scaled, rfl⟩ := spelled
  obtain ⟨noDigit, noPoint⟩ := starts_exponent_append scaled ends
  have scanned : spanDigits (digits whole ++ (fraction ++ exponent ++ rest))
      = (digits whole, fraction ++ (exponent ++ rest)) := by
    rw [List.append_assoc]
    apply spanDigits_append fun c member => isDigit_of_mem_digits member
    rcases pointed with rfl | ⟨run, _, _, rfl⟩
    · exact noDigit
    · exact startsWithNoDigit_cons.mpr rfl
  have leading
      : ¬ (digits whole = []
        ∨ (digits whole).head? = some '0' ∧ (digits whole).length ≠ 1) := by
    rintro (none | ⟨zero, long⟩)
    · exact digits_ne_nil whole none
    · exact long (length_digits_of_head? zero)
  simp only [number?, scanned, if_neg leading, fraction?_append pointed noDigit noPoint,
    exponent?_append scaled ends, Option.bind_eq_bind, Option.bind_some, Option.pure_def,
    value_digits]

/-- A character that is a digit starts a number and nothing else. -/
theorem token?_of_isDigit {c : Char} (digit : c.isDigit = true) (rest : List Char)
    : isSpace c = false
      ∧ token? c rest
        = (number? false (c :: rest)).map fun read => (.num read.1, read.2) := by
  have different {d : Char} (other : d.isDigit = false) : c ≠ d := by
    rintro rfl
    rw [digit] at other
    cases other
  refine ⟨by simp [isSpace, different], ?_⟩
  have start
      : token? c rest
        = (number? false (c :: rest)).bind fun read => some (.num read.1, read.2) := by
    unfold token?
    split
    case h_12 => rfl
    all_goals exact absurd rfl (different rfl)
  rw [start]
  cases number? false (c :: rest) <;> rfl

-----------------------------------------------------------------------------------------
-- Tokens
-----------------------------------------------------------------------------------------

/-- What a token needs to be followed by in order to end where it does. -/
def Token.EndsBefore (rest : List Char) : Token → Prop
  | .num _ => EndsNumber rest
  | _ => True

theorem word?_append (word : String) (token : Token) (rest : List Char)
    : word? word token (word.toList ++ rest) = some (token, rest) := by
  simp [word?, ← String.length_toList]

/-- A string that cannot be kept is shown as a lone half of a surrogate pair, and read as one. -/
theorem token?_none (rest : List Char)
    : token? '"' ("\\ud800\"".toList ++ rest) = some (.str none, rest) := by
  have scanned : pieces? ("\\ud800\"".toList ++ rest) = some ([.unit 0xD800], rest) := by
    have half : hex4? 'd' '8' '0' '0' = some 0xD800 := by decide
    refine (pieces?_unit half ('"' :: rest)).trans ?_
    rw [pieces?_quote]
    rfl
  simp only [token?, scanned, Option.bind_eq_bind, Option.bind_some, Option.pure_def]
  rfl

/-- A written token is read back, up to its end. -/
theorem exists_token?_render {token : Token} (spelled : token.IsSpelled) {rest : List Char}
    (ends : token.EndsBefore rest)
    : ∃ c others,
        token.render = c :: others
        ∧ isSpace c = false
        ∧ token? c (others ++ rest) = some (token, rest) := by
  cases token with
  | openObject | closeObject | openArray | closeArray | comma | colon =>
      exact ⟨_, [], rfl, by decide, rfl⟩
  | null => exact ⟨'n', "ull".toList, by decide, by decide, word?_append "ull" .null rest⟩
  | bool value =>
      cases value with
      | true => exact ⟨'t', "rue".toList, by decide, by decide, word?_append "rue" _ rest⟩
      | false => exact ⟨'f', "alse".toList, by decide, by decide, word?_append "alse" _ rest⟩
  | str text =>
      cases text with
      | none => exact ⟨'"', "\\ud800\"".toList, rfl, by decide, token?_none rest⟩
      | some s =>
          obtain ⟨pieces, read, assembled⟩ := pieces?_escaped s.toList rest
          refine ⟨'"', s.toList.flatMap escape ++ ['"'], rfl, by decide, ?_⟩
          have scanned
              : pieces? (s.toList.flatMap escape ++ ['"'] ++ rest) = some (pieces, rest) := by
            rw [List.append_assoc]
            exact read
          simp only [token?, scanned, assembled, Option.bind_eq_bind, Option.bind_some,
            Option.pure_def, Option.map_some, String.ofList_toList]
  | num number =>
      obtain ⟨negative, whole, tail⟩ := number
      cases negative with
      | true =>
          refine ⟨'-', digits whole ++ tail, by simp [Token.render, Number.render], by decide, ?_⟩
          simp only [token?, List.append_assoc, number?_digits true whole spelled ends,
            Option.bind_eq_bind, Option.bind_some, Option.pure_def]
      | false =>
          obtain ⟨c, others, shown⟩ := List.exists_cons_of_ne_nil (digits_ne_nil whole)
          have digit : c.isDigit = true := isDigit_of_mem_digits (shown ▸ List.mem_cons_self)
          obtain ⟨visible, starts⟩ := token?_of_isDigit digit (others ++ (tail ++ rest))
          refine ⟨c, others ++ tail, by simp [Token.render, Number.render, shown], visible, ?_⟩
          rw [List.append_assoc, starts, ← List.cons_append, ← shown,
            number?_digits false whole spelled ends]
          rfl

theorem endsBefore_render {token next : Token} (delimited : next.IsDelimiter)
    (rest : List Char)
    : token.EndsBefore (next.render ++ rest) := by
  cases token with
  | num number =>
      intro c others same
      rcases delimited with rfl | rfl | rfl <;> cases same <;> decide
  | _ => trivial

/-- Written tokens are split again as they were, with any bound that their length does not
exceed.
-/
theorem lexWithin_render {tokens : List Token} (spelled : ∀ token ∈ tokens, token.IsSpelled)
    (separated : Separated tokens) {bound : Nat}
    (enough : (tokens.flatMap Token.render).length ≤ bound)
    : lexWithin bound (tokens.flatMap Token.render) = some tokens := by
  induction tokens generalizing bound with
  | nil => cases bound <;> rfl
  | cons token tokens ih =>
      have later : Separated tokens := by
        cases token with
        | num => exact separated.2
        | _ => exact separated
      have ends : token.EndsBefore (tokens.flatMap Token.render) := by
        cases token with
        | num number =>
            cases tokens with
            | nil => intro c others same; cases same
            | cons next others => exact endsBefore_render (separated.1 next rfl) _
        | _ => trivial
      obtain ⟨c, others, shown, visible, read⟩ :=
        exists_token?_render (spelled token List.mem_cons_self) ends
      rw [List.flatMap_cons, shown, List.cons_append] at enough ⊢
      rw [List.length_cons, List.length_append] at enough
      cases bound with
      | zero => omega
      | succ bound =>
          have rest : lexWithin bound (tokens.flatMap Token.render) = some tokens :=
            ih (fun other member => spelled other (List.mem_cons_of_mem _ member)) later (by omega)
          simp only [lexWithin, visible, read, rest, Bool.false_eq_true, if_false,
            Option.bind_eq_bind, Option.bind_some, Option.pure_def]

/-- Written tokens are split again as they were. -/
theorem lex_render {tokens : List Token} (spelled : ∀ token ∈ tokens, token.IsSpelled)
    (separated : Separated tokens)
    : lex (tokens.flatMap Token.render) = some tokens :=
  lexWithin_render spelled separated (Nat.le_refl _)

end NodeDevices.Json
