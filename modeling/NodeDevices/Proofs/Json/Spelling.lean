import NodeDevices.Proofs.Json.Parsing

/-! A text that is read as a document splits into the tokens of that document and no others. So the
documents that can be read are those that can be written: every number in them has the spelling of
a JSON number, and nothing else is asked.
-/

namespace NodeDevices.Json

open Text.Decimal

-----------------------------------------------------------------------------------------
-- Tokens of a text
-----------------------------------------------------------------------------------------

theorem isDigit_of_mem_spanDigits {text : List Char} {c : Char} (member : c ∈ (spanDigits text).1)
    : c.isDigit = true :=
  List.all_eq_true.mp List.all_takeWhile c member

theorem isFraction_of_fraction? {text fraction rest : List Char}
    (read : fraction? text = some (fraction, rest))
    : IsFraction fraction := by
  unfold fraction? at read
  split at read
  · dsimp only at read
    split at read
    · cases read
    · next some_digit =>
        cases read
        exact Or.inr ⟨_, some_digit, fun c => isDigit_of_mem_spanDigits, rfl⟩
  · cases read
    exact Or.inl rfl

theorem exponentDigits?_eq_some {mark text exponent rest : List Char}
    (read : exponentDigits? mark text = some (exponent, rest))
    : ∃ run, run ≠ [] ∧ (∀ c ∈ run, c.isDigit = true) ∧ exponent = mark ++ run := by
  unfold exponentDigits? at read
  dsimp only at read
  split at read
  · cases read
  · next some_digit =>
      cases read
      exact ⟨_, some_digit, fun c => isDigit_of_mem_spanDigits, rfl⟩

theorem isExponent_of_exponent? {text exponent rest : List Char}
    (read : exponent? text = some (exponent, rest))
    : IsExponent exponent := by
  unfold exponent? at read
  split at read
  · next e others =>
      split at read
      · next marked =>
          split at read
          · next s later =>
              split at read
              · next signed =>
                  obtain ⟨run, some_digit, digits, rfl⟩ := exponentDigits?_eq_some read
                  refine Or.inr ⟨e, [s], run, marked, ?_, some_digit, digits, rfl⟩
                  exact Or.inr (signed.imp (congrArg ([·])) (congrArg ([·])))
              · obtain ⟨run, some_digit, digits, rfl⟩ := exponentDigits?_eq_some read
                exact Or.inr ⟨e, [], run, marked, Or.inl rfl, some_digit, digits, rfl⟩
          · cases read
      · cases read
        exact Or.inl rfl
  · cases read
    exact Or.inl rfl

theorem isSpelled_of_number? {negative : Bool} {text rest : List Char} {number : Number}
    (read : number? negative text = some (number, rest))
    : number.IsSpelled := by
  unfold number? at read
  dsimp only at read
  split at read
  · cases read
  · obtain ⟨⟨fraction, later⟩, pointed, read⟩ := Option.bind_eq_some_iff.mp read
    obtain ⟨⟨exponent, last⟩, scaled, read⟩ := Option.bind_eq_some_iff.mp read
    cases read
    exact ⟨fraction, exponent, isFraction_of_fraction? pointed, isExponent_of_exponent? scaled, rfl⟩

theorem isSpelled_of_word? {word : String} {token other : Token} {text rest : List Char}
    (spelled : token.IsSpelled) (read : word? word token text = some (other, rest))
    : other.IsSpelled := by
  unfold word? at read
  split at read
  · cases read
    exact spelled
  · cases read

/-- A token that is read can be written. -/
theorem isSpelled_of_token? {c : Char} {text rest : List Char} {token : Token}
    (read : token? c text = some (token, rest))
    : token.IsSpelled := by
  have ofNumber {negative : Bool} {text : List Char}
      (read : (number? negative text).bind (fun read => some (.num read.1, read.2))
        = some (token, rest))
      : token.IsSpelled := by
    obtain ⟨⟨number, last⟩, scanned, read⟩ := Option.bind_eq_some_iff.mp read
    cases read
    exact isSpelled_of_number? scanned
  unfold token? at read
  split at read
  case h_7 =>
    obtain ⟨⟨pieces, last⟩, _, read⟩ := Option.bind_eq_some_iff.mp read
    cases read
    trivial
  case h_8 | h_9 | h_10 =>
    refine isSpelled_of_word? ?_ read
    trivial
  case h_11 | h_12 => exact ofNumber read
  all_goals
    cases read
    trivial

theorem isSpelled_of_mem_lexWithin {bound : Nat} {text : List Char} {tokens : List Token}
    (read : lexWithin bound text = some tokens)
    : ∀ token ∈ tokens, token.IsSpelled := by
  induction bound generalizing text tokens with
  | zero =>
      cases text with
      | nil =>
          cases read
          simp
      | cons => cases read
  | succ bound ih =>
      cases text with
      | nil =>
          cases read
          simp
      | cons c text =>
          rw [lexWithin] at read
          split at read
          · exact ih read
          · obtain ⟨⟨first, later⟩, begins, read⟩ := Option.bind_eq_some_iff.mp read
            obtain ⟨others, ends, read⟩ := Option.bind_eq_some_iff.mp read
            cases read
            rw [List.forall_mem_cons]
            exact ⟨isSpelled_of_token? begins, ih ends⟩

-----------------------------------------------------------------------------------------
-- Tokens of a document
-----------------------------------------------------------------------------------------

theorem itemTokens_cons {items : List Json} (some_item : items ≠ []) (item : Json)
    : itemTokens (item :: items) = item.tokens ++ .comma :: itemTokens items := by
  cases items with
  | nil => exact absurd rfl some_item
  | cons => rw [itemTokens]

theorem memberTokens_cons {members : List (Text × Json)} (some_member : members ≠ [])
    (name : Text) (value : Json)
    : memberTokens ((name, value) :: members)
      = .str name :: .colon :: value.tokens ++ .comma :: memberTokens members := by
  cases members with
  | nil => exact absurd rfl some_member
  | cons => rw [memberTokens]

mutual
/-- The tokens that are read as a document are its own. -/
theorem tokens_append_of_readValue? {bound : Nat} {given rest : List Token} {document : Json}
    (read : readValue? bound given = some (document, rest))
    : given = document.tokens ++ rest := by
  match bound, given with
  | 0, _ | _ + 1, [] => simp [readValue?] at read
  | bound + 1, token :: later =>
      rw [readValue?.eq_def] at read
      dsimp only at read
      split at read
      case h_5 =>
        split at read
        · cases read
          simp [tokens, itemTokens]
        · obtain ⟨⟨items, last⟩, found, read⟩ := Option.bind_eq_some_iff.mp read
          cases read
          obtain ⟨-, rfl⟩ := tokens_append_of_readItems? found
          simp [tokens]
      case h_6 =>
        split at read
        · cases read
          simp [tokens, memberTokens]
        · obtain ⟨⟨members, last⟩, found, read⟩ := Option.bind_eq_some_iff.mp read
          cases read
          obtain ⟨-, rfl⟩ := tokens_append_of_readMembers? found
          simp [tokens]
      case h_7 => cases read
      all_goals
        cases read
        simp [tokens]
termination_by bound

theorem tokens_append_of_readItems? {bound : Nat} {given rest : List Token} {items : List Json}
    (read : readItems? bound given = some (items, rest))
    : items ≠ [] ∧ given = itemTokens items ++ .closeArray :: rest := by
  match bound with
  | 0 => simp [readItems?] at read
  | bound + 1 =>
      rw [readItems?] at read
      obtain ⟨⟨item, later⟩, head, read⟩ := Option.bind_eq_some_iff.mp read
      rw [tokens_append_of_readValue? head]
      dsimp only at read
      split at read
      · cases read
        simp [itemTokens]
      · obtain ⟨⟨others, last⟩, tail, read⟩ := Option.bind_eq_some_iff.mp read
        cases read
        obtain ⟨some_item, rfl⟩ := tokens_append_of_readItems? tail
        simp [itemTokens_cons some_item]
      · cases read
termination_by bound

theorem tokens_append_of_readMembers? {bound : Nat} {given rest : List Token}
    {members : List (Text × Json)}
    (read : readMembers? bound given = some (members, rest))
    : members ≠ [] ∧ given = memberTokens members ++ .closeObject :: rest := by
  match bound with
  | 0 => simp [readMembers?] at read
  | bound + 1 =>
      rw [readMembers?.eq_def] at read
      dsimp only at read
      split at read
      · obtain ⟨⟨value, later⟩, head, read⟩ := Option.bind_eq_some_iff.mp read
        rw [tokens_append_of_readValue? head]
        dsimp only at read
        split at read
        · cases read
          simp [memberTokens]
        · obtain ⟨⟨others, last⟩, tail, read⟩ := Option.bind_eq_some_iff.mp read
          cases read
          obtain ⟨some_member, rfl⟩ := tokens_append_of_readMembers? tail
          simp [memberTokens_cons some_member]
        · cases read
      · cases read
termination_by bound
end

/-- A text that is read as a document splits into the tokens of the document. -/
theorem lex_eq_of_parse? {text : List Char} {document : Json}
    (read : parse? text = some document)
    : lex text = some document.tokens := by
  obtain ⟨given, split, read⟩ := Option.bind_eq_some_iff.mp read
  obtain ⟨⟨found, rest⟩, value, read⟩ := Option.bind_eq_some_iff.mp read
  dsimp only at read
  split at read
  · next nothing =>
      cases read
      obtain rfl := List.isEmpty_iff.mp nothing
      rw [split, tokens_append_of_readValue? value, List.append_nil]
  · cases read

/-- A document that is read can be written. -/
theorem isSpelled_of_parse? {text : List Char} {document : Json}
    (read : parse? text = some document)
    : document.IsSpelled :=
  isSpelled_of_mem_lexWithin (lex_eq_of_parse? read)

-----------------------------------------------------------------------------------------
-- Documents that can be written, by their shape
-----------------------------------------------------------------------------------------

theorem isSpelled_arr {items : List Json}
    : IsSpelled (.arr items) ↔ ∀ item ∈ items, item.IsSpelled := by
  have among : (∀ token ∈ itemTokens items, token.IsSpelled) ↔ ∀ item ∈ items, item.IsSpelled :=
    forall_mem_itemTokens trivial
  rw [← among, IsSpelled, tokens, List.forall_mem_append, List.forall_mem_cons,
    List.forall_mem_singleton]
  exact ⟨fun all => all.1.2, fun inside => ⟨⟨trivial, inside⟩, trivial⟩⟩

theorem isSpelled_obj {members : List (Text × Json)}
    : IsSpelled (.obj members) ↔ ∀ member ∈ members, member.2.IsSpelled := by
  have among
      : (∀ token ∈ memberTokens members, token.IsSpelled)
        ↔ ∀ member ∈ members, True ∧ member.2.IsSpelled :=
    forall_mem_memberTokens trivial trivial
  simp only [true_and] at among
  rw [← among, IsSpelled, tokens, List.forall_mem_append, List.forall_mem_cons,
    List.forall_mem_singleton]
  exact ⟨fun all => all.1.2, fun inside => ⟨⟨trivial, inside⟩, trivial⟩⟩

end NodeDevices.Json
