import DocForm.Proofs.Sentinel.Spelling

/-! Sentinels in their canonical spelling. Main statement: fields honour exactly those of the
sentinels seen in a text that begin with a token in capitals, and read them alike. -/

namespace DocForm.Sentinel

variable {kind : SentinelKind} {sentinel : Sentinel} {text : String} {rest : List Char}

theorem toList_token (kind : SentinelKind) :
    kind.token.toList = '%' :: (kind.name.toList ++ ['%']) := by
  simp [SentinelKind.token]

theorem isNamed_name (kind : SentinelKind) : IsNamed kind kind.name :=
  isNamed_iff.mpr (by cases kind <;> decide)

theorem parseKind_eq_some_iff {content : List Char} : parseKind content kind = some sentinel ↔
    ∃ rest, kind.token.toList ++ rest = content ∧
      ofReason kind (parenthesised rest) = sentinel := by
  simp only [parseKind, Option.map_eq_some_iff, List.isPrefixOf?_eq_some_iff_append_eq]

/-- No text begins with both tokens. -/
theorem eq_of_token {other : SentinelKind} {otherRest : List Char}
    (same : kind.token.toList ++ rest = other.token.toList ++ otherRest) : kind = other := by
  have either := List.prefix_or_prefix_of_prefix ⟨rest, same⟩ ⟨otherRest, rfl⟩
  revert either
  cases kind <;> cases other <;> decide

theorem trimmed_of_token {rest : String} (shown : Text.trim text = kind.token ++ rest) :
    Text.trimmed text.toList = kind.token.toList ++ rest.toList := by
  rw [← Text.toList_trim, shown, String.toList_append]

theorem parse?_of_token {rest : String} (shown : Text.trim text = kind.token ++ rest) :
    parse? text = some (ofReason kind (parenthesised rest.toList)) := by
  have others : ∀ other, other ≠ kind →
      parseKind (kind.token.toList ++ rest.toList) other = none := by
    intro other different
    refine Option.eq_none_iff_forall_ne_some.mpr fun sentinel also => ?_
    obtain ⟨otherRest, same, _⟩ := parseKind_eq_some_iff.mp also
    exact different (eq_of_token same)
  calc parse? text
    _ = (parseKind (kind.token.toList ++ rest.toList) .skip <|>
        parseKind (kind.token.toList ++ rest.toList) .abort) := by
      rw [parse?, trimmed_of_token shown]
    _ = parseKind (kind.token.toList ++ rest.toList) kind := orElse_eq_of_only others
    _ = some (ofReason kind (parenthesised rest.toList)) :=
      parseKind_eq_some_iff.mpr ⟨rest.toList, rfl, rfl⟩

theorem detect?_of_token {rest : String} (shown : Text.trim text = kind.token ++ rest) :
    detect? text = some (ofReason kind (parenthesised rest.toList)) := by
  have spelled := trimmed_of_token shown
  rw [toList_token, List.cons_append, List.append_assoc] at spelled
  exact detect?_of_named (isNamed_name kind) spelled

theorem exists_token_of_parse? (found : parse? text = some sentinel) :
    ∃ (kind : SentinelKind) (rest : String), Text.trim text = kind.token ++ rest := by
  obtain ⟨kind, read⟩ : ∃ kind, parseKind (Text.trimmed text.toList) kind = some sentinel :=
    exists_of_orElse found
  obtain ⟨rest, whole, _⟩ := parseKind_eq_some_iff.mp read
  refine ⟨kind, .ofList rest, String.toList_inj.mp ?_⟩
  rw [Text.toList_trim, ← whole, String.toList_append, String.toList_ofList]

/-- A field honours a sentinel exactly when one is seen and the text begins with a token in
capitals. -/
theorem parse?_iff_detect? (text : String) (sentinel : Sentinel) :
    parse? text = some sentinel ↔ detect? text = some sentinel ∧
      ((∃ rest, Text.trim text = "%SKIP%" ++ rest) ∨
        ∃ rest, Text.trim text = "%ABORT%" ++ rest) := by
  have skip : SentinelKind.token .skip = "%SKIP%" := by decide
  have abort : SentinelKind.token .abort = "%ABORT%" := by decide
  constructor
  · intro found
    obtain ⟨kind, rest, shown⟩ := exists_token_of_parse? found
    refine ⟨by rwa [detect?_of_token shown, ← parse?_of_token shown], ?_⟩
    cases kind with
    | skip => exact .inl ⟨rest, skip ▸ shown⟩
    | abort => exact .inr ⟨rest, abort ▸ shown⟩
  · rintro ⟨found, begins⟩
    obtain ⟨kind, rest, shown⟩ : ∃ (kind : SentinelKind) (rest : String),
        Text.trim text = kind.token ++ rest := by
      rcases begins with ⟨rest, shown⟩ | ⟨rest, shown⟩
      · exact ⟨.skip, rest, skip ▸ shown⟩
      · exact ⟨.abort, rest, abort ▸ shown⟩
    rwa [parse?_of_token shown, ← detect?_of_token shown]

end DocForm.Sentinel
