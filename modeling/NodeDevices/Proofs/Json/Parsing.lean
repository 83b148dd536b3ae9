import NodeDevices.Json.Parser
import NodeDevices.Proofs.Json.Lexing

/-! A written document is read back as it was, whatever its shape. Its tokens are read along its
tree; the bound on the reader's work, twice their number, is enough at every level.
-/

namespace NodeDevices.Json

-----------------------------------------------------------------------------------------
-- Documents from their tokens
-----------------------------------------------------------------------------------------

/-- A document does not start by closing anything. -/
theorem exists_cons_tokens (document : Json)
    : ∃ first rest, document.tokens = first :: rest ∧ first ≠ .closeArray := by
  cases document with
  | arr | obj => exact ⟨_, _, by rw [tokens, List.cons_append], by simp⟩
  | _ => exact ⟨_, _, by rw [tokens], by simp⟩

theorem length_tokens_pos (document : Json) : 0 < document.tokens.length := by
  obtain ⟨first, rest, shown, _⟩ := exists_cons_tokens document
  rw [shown]
  exact Nat.succ_pos _

theorem exists_cons_itemTokens (item : Json) (items : List Json)
    : ∃ first rest, itemTokens (item :: items) = first :: rest ∧ first ≠ .closeArray := by
  obtain ⟨first, rest, shown, opens⟩ := exists_cons_tokens item
  cases items with
  | nil => exact ⟨first, rest, by rw [itemTokens, shown], opens⟩
  | cons => exact ⟨first, _, by rw [itemTokens, shown, List.cons_append], opens⟩

theorem exists_cons_memberTokens (member : Text × Json) (members : List (Text × Json))
    : ∃ rest, memberTokens (member :: members) = .str member.1 :: rest := by
  obtain ⟨name, value⟩ := member
  cases members with
  | nil => exact ⟨_, by rw [memberTokens]⟩
  | cons => exact ⟨_, by rw [memberTokens, List.cons_append]⟩

theorem readValue?_openArray {first : Token} (opens : first ≠ .closeArray) (rest : List Token)
    (bound : Nat)
    : readValue? (bound + 1) (.openArray :: first :: rest)
      = (readItems? bound (first :: rest)).map fun read => (.arr read.1, read.2) := by
  cases first with
  | closeArray => exact absurd rfl opens
  | _ =>
      simp only [readValue?]
      cases readItems? bound _ <;> rfl

theorem readValue?_openObject {first : Token} (opens : first ≠ .closeObject) (rest : List Token)
    (bound : Nat)
    : readValue? (bound + 1) (.openObject :: first :: rest)
      = (readMembers? bound (first :: rest)).map fun read => (.obj read.1, read.2) := by
  cases first with
  | closeObject => exact absurd rfl opens
  | _ =>
      simp only [readValue?]
      cases readMembers? bound _ <;> rfl

mutual
/-- The tokens of a document are read as that document, whatever follows them. -/
theorem readValue?_tokens (document : Json) (rest : List Token) (bound : Nat)
    (enough : 2 * document.tokens.length ≤ bound + 1)
    : readValue? bound (document.tokens ++ rest) = some (document, rest) := by
  have positive := length_tokens_pos document
  cases bound with
  | zero => omega
  | succ bound =>
      cases document with
      | null | bool | num | str => simp [tokens, readValue?]
      | arr items =>
          cases items with
          | nil => simp [tokens, itemTokens, readValue?]
          | cons item items =>
              rw [tokens] at enough ⊢
              simp only [List.length_append, List.length_cons, List.length_nil] at enough
              have read := readItems?_tokens item items rest bound (by omega)
              obtain ⟨first, others, shown, opens⟩ := exists_cons_itemTokens item items
              simp only [shown, List.cons_append, List.append_assoc, List.nil_append] at read ⊢
              rw [readValue?_openArray opens, read]
              rfl
      | obj members =>
          cases members with
          | nil => simp [tokens, memberTokens, readValue?]
          | cons member members =>
              rw [tokens] at enough ⊢
              simp only [List.length_append, List.length_cons, List.length_nil] at enough
              have read := readMembers?_tokens member members rest bound (by omega)
              obtain ⟨others, shown⟩ := exists_cons_memberTokens member members
              simp only [shown, List.cons_append, List.append_assoc, List.nil_append] at read ⊢
              rw [readValue?_openObject (by simp), read]
              rfl
termination_by bound

/-- The tokens of items are read up to the bracket that closes their array. -/
theorem readItems?_tokens (item : Json) (items : List Json) (rest : List Token) (bound : Nat)
    (enough : 2 * (itemTokens (item :: items)).length ≤ bound)
    : readItems? bound (itemTokens (item :: items) ++ .closeArray :: rest)
      = some (item :: items, rest) := by
  have positive := length_tokens_pos item
  cases items with
  | nil =>
      rw [itemTokens] at enough ⊢
      cases bound with
      | zero => omega
      | succ bound =>
          have head := readValue?_tokens item (.closeArray :: rest) bound enough
          simp only [readItems?, head, Option.bind_eq_bind, Option.bind_some, Option.pure_def]
  | cons next items =>
      rw [itemTokens, List.length_append, List.length_cons] at enough
      rw [itemTokens, List.append_assoc, List.cons_append]
      cases bound with
      | zero => omega
      | succ bound =>
          have head := readValue?_tokens item
            (.comma :: (itemTokens (next :: items) ++ .closeArray :: rest)) bound
            (by omega)
          have tail := readItems?_tokens next items rest bound (by omega)
          simp only [readItems?, head, tail, Option.bind_eq_bind, Option.bind_some,
            Option.pure_def]
termination_by bound

/-- The tokens of members are read up to the brace that closes their object. -/
theorem readMembers?_tokens (member : Text × Json) (members : List (Text × Json))
    (rest : List Token) (bound : Nat)
    (enough : 2 * (memberTokens (member :: members)).length ≤ bound)
    : readMembers? bound (memberTokens (member :: members) ++ .closeObject :: rest)
      = some (member :: members, rest) := by
  obtain ⟨name, value⟩ := member
  cases members with
  | nil =>
      rw [memberTokens, List.length_cons, List.length_cons] at enough
      rw [memberTokens, List.cons_append, List.cons_append]
      cases bound with
      | zero => omega
      | succ bound =>
          have head := readValue?_tokens value (.closeObject :: rest) bound
            (by omega)
          simp only [readMembers?, head, Option.bind_eq_bind, Option.bind_some,
            Option.pure_def]
  | cons next members =>
      rw [memberTokens] at enough ⊢
      simp only [List.length_append, List.length_cons] at enough
      simp only [List.cons_append, List.append_assoc]
      cases bound with
      | zero => omega
      | succ bound =>
          have head := readValue?_tokens value
            (.comma :: (memberTokens (next :: members) ++ .closeObject :: rest))
            bound (by omega)
          have tail := readMembers?_tokens next members rest bound (by omega)
          simp only [readMembers?, head, tail, Option.bind_eq_bind, Option.bind_some,
            Option.pure_def]
termination_by bound
end

-----------------------------------------------------------------------------------------
-- Documents that can be written
-----------------------------------------------------------------------------------------

/-- What holds of commas holds of all tokens of some items when it holds of those of each. -/
theorem forall_mem_itemTokens {holds : Token → Prop} (comma : holds .comma) {items : List Json}
    : (∀ token ∈ itemTokens items, holds token)
      ↔ ∀ item ∈ items, ∀ token ∈ item.tokens, holds token := by
  induction items with
  | nil => simp [itemTokens]
  | cons item items ih =>
      cases items with
      | nil => simp [itemTokens]
      | cons next items =>
          rw [itemTokens, List.forall_mem_append, List.forall_mem_cons, ih,
            List.forall_mem_cons (l := next :: items)]
          simp only [comma, true_and]

/-- What holds of commas and colons holds of all tokens of some members when it holds of the name
of each and of those of its value.
-/
theorem forall_mem_memberTokens {holds : Token → Prop} (comma : holds .comma)
    (colon : holds .colon) {members : List (Text × Json)}
    : (∀ token ∈ memberTokens members, holds token)
      ↔ ∀ member ∈ members, holds (.str member.1) ∧ ∀ token ∈ member.2.tokens, holds token := by
  induction members with
  | nil => simp [memberTokens]
  | cons member members ih =>
      obtain ⟨name, value⟩ := member
      cases members with
      | nil => simp [memberTokens, colon]
      | cons next members =>
          rw [memberTokens, List.forall_mem_append, List.forall_mem_cons, List.forall_mem_cons,
            List.forall_mem_cons, ih, List.forall_mem_cons (l := next :: members)]
          simp only [comma, colon, true_and]

/-- The numbers of the document have the spelling of JSON numbers. -/
def IsSpelled (document : Json) : Prop :=
  ∀ token ∈ document.tokens, token.IsSpelled

/-- The document consists of whole texts, integers and what is built from them. -/
def IsPlain (document : Json) : Prop :=
  ∀ token ∈ document.tokens, token.IsPlain

mutual
/-- In a document every number stands before the end of its value. -/
theorem separated_tokens (document : Json) (rest : List Token)
    (delimited : ∀ token ∈ rest.head?, token.IsDelimiter) (separated : Separated rest)
    : Separated (document.tokens ++ rest) := by
  cases document with
  | null | bool | str => simpa [tokens, Separated] using separated
  | num => simpa [tokens, Separated] using ⟨delimited, separated⟩
  | arr items =>
      have closed : Separated (itemTokens items ++ .closeArray :: rest) :=
        separated_itemTokens items _ (by simp [Token.IsDelimiter]) (by simpa [Separated])
      simpa [tokens, Separated] using closed
  | obj members =>
      have closed : Separated (memberTokens members ++ .closeObject :: rest) :=
        separated_memberTokens members _ (by simp [Token.IsDelimiter]) (by simpa [Separated])
      simpa [tokens, Separated] using closed

theorem separated_itemTokens (items : List Json) (rest : List Token)
    (delimited : ∀ token ∈ rest.head?, token.IsDelimiter) (separated : Separated rest)
    : Separated (itemTokens items ++ rest) := by
  match items with
  | [] => simpa [itemTokens] using separated
  | [item] =>
      rw [itemTokens]
      exact separated_tokens item rest delimited separated
  | item :: next :: items =>
      have later := separated_itemTokens (next :: items) rest delimited separated
      rw [itemTokens, List.append_assoc]
      exact separated_tokens item _ (by simp [Token.IsDelimiter]) (by simpa [Separated] using later)

theorem separated_memberTokens (members : List (Text × Json)) (rest : List Token)
    (delimited : ∀ token ∈ rest.head?, token.IsDelimiter) (separated : Separated rest)
    : Separated (memberTokens members ++ rest) := by
  match members with
  | [] => simpa [memberTokens] using separated
  | [(name, value)] =>
      have value := separated_tokens value rest delimited separated
      simpa [memberTokens, Separated] using value
  | (name, value) :: next :: members =>
      have later := separated_memberTokens (next :: members) rest delimited separated
      have value := separated_tokens value
        (.comma :: (memberTokens (next :: members) ++ rest))
        (by simp [Token.IsDelimiter]) (by simpa [Separated] using later)
      simpa [memberTokens, Separated] using value
end

/-- A document is read back from its written form, whatever it is nested in and however long its
numbers are.
-/
theorem parse?_render_of_isSpelled {document : Json} (spelled : document.IsSpelled)
    : parse? document.render.toList = some document := by
  have separated : Separated document.tokens := by
    simpa using separated_tokens document [] (by simp) trivial
  have read := readValue?_tokens document [] (2 * document.tokens.length + 1) (by omega)
  rw [List.append_nil] at read
  rw [parse?, render, String.toList_ofList, lex_render spelled separated]
  simp only [Option.bind_eq_bind, Option.bind_some, read]
  rfl

/-- A plain document is read back from its written form. -/
theorem parse?_render {document : Json} (plain : document.IsPlain)
    : parse? document.render.toList = some document :=
  parse?_render_of_isSpelled fun token member => (plain token member).isSpelled

end NodeDevices.Json
