import DocForm.Proofs.Field.WellFormed
import DocForm.Proofs.Text.Trim
import Mathlib.Data.Option.Basic

/-! Sentinels in all their spellings. Main statement: the texts that a sentinel is seen in are those
that spell one, whatever its reason holds, and the reason that is read is the one that is written,
trimmed. -/

namespace DocForm

theorem toNat_toUpper (c : Char) :
    c.toUpper.toNat = if 97 ≤ c.toNat ∧ c.toNat ≤ 122 then c.toNat - 32 else c.toNat := by
  have low : 'a'.val ≤ c.val ↔ 97 ≤ c.toNat := Iff.rfl
  have high : c.val ≤ 'z'.val ↔ c.toNat ≤ 122 := Iff.rfl
  unfold Char.toUpper
  split
  · rename_i small
    rw [low, high] at small
    rw [if_pos small]
    -- Going down by 32 is adding its complement.
    change (c.val + ('A'.val - 'a'.val)).toNat = c.toNat - 32
    rw [UInt32.toNat_add]
    change (c.toNat + 4294967264) % 4294967296 = c.toNat - 32
    omega
  · rename_i other
    rw [low, high] at other
    rw [if_neg other]

theorem code_of_isUpper {letter : Char} (capital : letter.isUpper = true) :
    65 ≤ letter.toNat ∧ letter.toNat ≤ 90 :=
  of_decide_eq_true capital

theorem toNat_toLower {letter : Char} (capital : letter.isUpper = true) :
    letter.toLower.toNat = letter.toNat + 32 := by
  have code := code_of_isUpper capital
  unfold Char.toLower
  rw [dif_pos ⟨code.1, code.2⟩]
  change (letter.val + ('a'.val - 'A'.val)).toNat = letter.toNat + 32
  rw [UInt32.toNat_add]
  change (letter.toNat + 32) % 4294967296 = letter.toNat + 32
  omega

/-- A capital is written as it is or small. -/
theorem toUpper_eq_iff {letter c : Char} (capital : letter.isUpper = true) :
    c.toUpper = letter ↔ c = letter ∨ c = letter.toLower := by
  have code := code_of_isUpper capital
  rw [← Char.toNat_inj, ← Char.toNat_inj, ← Char.toNat_inj, toNat_toLower capital, toNat_toUpper]
  split <;> omega

namespace Sentinel

variable {kind : SentinelKind} {sentinel : Sentinel} {name reason written text : String}
  {named rest : List Char}

/-- The name of a kind, each of its letters a capital or small. -/
def IsNamed (kind : SentinelKind) (name : String) : Prop :=
  List.Forall₂ (fun letter c => c = letter ∨ c = letter.toLower) kind.name.toList name.toList

/-- What a text looks like that a sentinel is seen in, without the white space around it. -/
inductive Spells : Sentinel → String → Prop where
  | colon {kind : SentinelKind} {name : String} (isNamed : IsNamed kind name) (reason : String) :
      Spells ⟨kind, Text.trim? reason⟩ ("%" ++ name ++ ":" ++ reason ++ "%")
  | parenthesised {kind : SentinelKind} {name : String} (isNamed : IsNamed kind name)
      (reason : String) :
      Spells ⟨kind, Text.trim? reason⟩ ("%" ++ name ++ "(" ++ reason ++ ")%")
  | remark {kind : SentinelKind} {name rest reason : String} (isNamed : IsNamed kind name)
      (behind : Text.trim rest = "(" ++ reason ++ ")") :
      Spells ⟨kind, Text.trim? reason⟩ ("%" ++ name ++ "%" ++ rest)
  /-- Anything else behind the token is passed over. -/
  | token {kind : SentinelKind} {name rest : String} (isNamed : IsNamed kind name)
      (behind : ∀ reason, Text.trim rest ≠ "(" ++ reason ++ ")") :
      Spells ⟨kind, none⟩ ("%" ++ name ++ "%" ++ rest)

/-- The ways to write a reason beside a name. -/
inductive Writes (name reason : String) : String → Prop where
  | spaced : Writes name reason ("%" ++ name ++ "% (" ++ reason ++ ")")
  | joined : Writes name reason ("%" ++ name ++ "%(" ++ reason ++ ")")
  | colon : Writes name reason ("%" ++ name ++ ":" ++ reason ++ "%")
  | parenthesised : Writes name reason ("%" ++ name ++ "(" ++ reason ++ ")%")

theorem map_toUpper_eq_iff {letters cs : List Char}
    (capitals : ∀ letter ∈ letters, letter.isUpper = true) :
    cs.map Char.toUpper = letters ↔
      List.Forall₂ (fun letter c => c = letter ∨ c = letter.toLower) letters cs := by
  induction letters generalizing cs with
  | nil => simp
  | cons letter rest ih =>
    obtain ⟨capital, others⟩ := List.forall_mem_cons.mp capitals
    cases cs with
    | nil => simp
    | cons c more =>
      rw [List.map_cons, List.cons.injEq, List.forall₂_cons, toUpper_eq_iff capital, ih others]

/-- A name is told by its capitals. -/
theorem isNamed_iff : IsNamed kind name ↔ name.toList.map Char.toUpper = kind.name.toList := by
  have capitals : kind.name.toList.all Char.isUpper = true := by
    cases kind <;> decide
  exact (map_toUpper_eq_iff (List.all_eq_true.mp capitals)).symm

theorem afterName?_eq_some_iff : afterName? kind.name.toList named = some rest ↔
    ∃ name : String, IsNamed kind name ∧ named = name.toList ++ rest := by
  simp only [afterName?, Option.ite_none_right_eq_some, Option.some.injEq, isNamed_iff]
  constructor
  · rintro ⟨isNamed, rfl⟩
    refine ⟨.ofList (named.take kind.name.toList.length), ?_, ?_⟩
    · rwa [String.toList_ofList]
    · rw [String.toList_ofList, List.take_append_drop]
  · rintro ⟨name, isNamed, rfl⟩
    have length : kind.name.toList.length = name.toList.length := by
      rw [← isNamed, List.length_map]
    rw [length, List.take_left, List.drop_left]
    exact ⟨isNamed, rfl⟩

theorem name_prefix_of_afterName? (found : afterName? kind.name.toList named = some rest) :
    kind.name.toList <+: named.map Char.toUpper := by
  simp only [afterName?, Option.ite_none_right_eq_some] at found
  refine ⟨(named.drop kind.name.toList.length).map Char.toUpper, ?_⟩
  nth_rewrite 1 [← found.1]
  rw [← List.map_append, List.take_append_drop]

/-- No text begins with two of the names. -/
theorem eq_of_afterName? {other : SentinelKind} {otherRest : List Char}
    (first : afterName? kind.name.toList named = some rest)
    (second : afterName? other.name.toList named = some otherRest) : kind = other := by
  have either := List.prefix_or_prefix_of_prefix (name_prefix_of_afterName? first)
    (name_prefix_of_afterName? second)
  revert either
  cases kind <;> cases other <;> decide

theorem ofReason_some (kind : SentinelKind) (reason : String) :
    ofReason kind (some reason.toList) = ⟨kind, Text.trim? reason⟩ := by
  simp [ofReason, Text.trim?, Text.trim]

theorem parenthesised_eq_some_iff : parenthesised rest = some reason.toList ↔
    Text.trim (.ofList rest) = "(" ++ reason ++ ")" := by
  rw [parenthesised, bind_eq_some, ← String.toList_inj, Text.toList_trim]
  simp only [List.isPrefixOf?_eq_some_iff_append_eq, List.isSuffixOf?_eq_some_iff_append_eq]
  simp [eq_comm]

/-- A text spells the sentinel that is read behind its name. -/
theorem spells_of_detectEnding (isNamed : IsNamed kind name)
    (shape : text.toList = '%' :: (name.toList ++ rest))
    (found : detectEnding kind rest = some sentinel) : Spells sentinel text := by
  unfold detectEnding at found
  split at found
  case h_1 behind =>
    cases found
    obtain rfl : text = "%" ++ name ++ "%" ++ .ofList behind := String.toList_inj.mp (by simp [shape])
    cases inner : parenthesised behind with
    | none =>
      -- Whatever follows is no remark, so the token stands without a reason.
      refine .token isNamed fun reason remark => ?_
      have enclosed := parenthesised_eq_some_iff.mpr remark
      rw [inner] at enclosed
      cases enclosed
    | some cs =>
      obtain ⟨reason, rfl⟩ : ∃ reason : String, cs = reason.toList := ⟨.ofList cs, by simp⟩
      rw [ofReason_some]
      exact .remark isNamed (parenthesised_eq_some_iff.mp inner)
  case h_2 behind =>
    obtain ⟨cs, closed, rfl⟩ := Option.map_eq_some_iff.mp found
    obtain ⟨reason, rfl⟩ : ∃ reason : String, cs = reason.toList := ⟨.ofList cs, by simp⟩
    have whole : reason.toList ++ ['%'] = behind := List.isSuffixOf?_eq_some_iff_append_eq.mp closed
    obtain rfl : text = "%" ++ name ++ ":" ++ reason ++ "%" :=
      String.toList_inj.mp (by simp [shape, ← whole])
    rw [ofReason_some]
    exact .colon isNamed reason
  case h_3 behind =>
    obtain ⟨cs, closed, rfl⟩ := Option.map_eq_some_iff.mp found
    obtain ⟨reason, rfl⟩ : ∃ reason : String, cs = reason.toList := ⟨.ofList cs, by simp⟩
    have whole : reason.toList ++ [')', '%'] = behind :=
      List.isSuffixOf?_eq_some_iff_append_eq.mp closed
    obtain rfl : text = "%" ++ name ++ "(" ++ reason ++ ")%" :=
      String.toList_inj.mp (by simp [shape, ← whole])
    rw [ofReason_some]
    exact .parenthesised isNamed reason
  case h_4 => cases found

/-- Behind the name of a spelled sentinel, the sentinel is read. -/
theorem detectEnding_of_spells (spelled : Spells sentinel text) :
    ∃ kind name rest, IsNamed kind name ∧ text.toList = '%' :: (name.toList ++ rest) ∧
      detectEnding kind rest = some sentinel := by
  cases spelled with
  | @colon kind name isNamed reason =>
    refine ⟨kind, name, ':' :: (reason.toList ++ ['%']), isNamed, by simp, ?_⟩
    rw [detectEnding, List.isSuffixOf?_eq_some_iff_append_eq.mpr rfl, Option.map_some, ofReason_some]
  | @parenthesised kind name isNamed reason =>
    refine ⟨kind, name, '(' :: (reason.toList ++ [')', '%']), isNamed, by simp, ?_⟩
    rw [detectEnding, List.isSuffixOf?_eq_some_iff_append_eq.mpr rfl, Option.map_some, ofReason_some]
  | @remark kind name rest reason isNamed behind =>
    refine ⟨kind, name, '%' :: rest.toList, isNamed, by simp, ?_⟩
    rw [detectEnding, parenthesised_eq_some_iff.mpr (by simpa using behind), ofReason_some]
  | @token kind name rest isNamed behind =>
    refine ⟨kind, name, '%' :: rest.toList, isNamed, by simp, ?_⟩
    have nothing : parenthesised rest.toList = none := by
      refine Option.eq_none_iff_forall_ne_some.mpr fun cs inner => ?_
      obtain ⟨reason, rfl⟩ : ∃ reason : String, cs = reason.toList := ⟨.ofList cs, by simp⟩
      exact behind reason (by simpa using parenthesised_eq_some_iff.mp inner)
    rw [detectEnding, nothing]
    rfl

section Kinds

variable {read : SentinelKind → Option Sentinel}

/-- Of two attempts, the one that can succeed decides. -/
theorem orElse_eq_of_only (only : ∀ other, other ≠ kind → read other = none) :
    (read .skip <|> read .abort) = read kind := by
  cases kind with
  | skip => simp [only .abort (by decide)]
  | abort => simp [only .skip (by decide)]

theorem exists_of_orElse (found : (read .skip <|> read .abort) = some sentinel) :
    ∃ kind, read kind = some sentinel := by
  rcases (Option.orElse_eq_some _ _ _).mp found with skip | ⟨_, abort⟩
  · exact ⟨.skip, skip⟩
  · exact ⟨.abort, abort⟩

end Kinds

/-- The ending decides once the name is known. -/
theorem detect?_of_named (isNamed : IsNamed kind name)
    (shown : Text.trimmed text.toList = '%' :: (name.toList ++ rest)) :
    detect? text = detectEnding kind rest := by
  have found : afterName? kind.name.toList (name.toList ++ rest) = some rest :=
    afterName?_eq_some_iff.mpr ⟨name, isNamed, rfl⟩
  have others : ∀ other, other ≠ kind → detectKind (name.toList ++ rest) other = none := by
    intro other different
    rw [detectKind, Option.bind_eq_none_iff]
    intro otherRest also
    exact absurd (eq_of_afterName? also found) different
  calc detect? text
    _ = (detectKind (name.toList ++ rest) .skip <|> detectKind (name.toList ++ rest) .abort) := by
      rw [detect?, shown]
      rfl
    _ = detectKind (name.toList ++ rest) kind := orElse_eq_of_only others
    _ = detectEnding kind rest := by rw [detectKind, found, Option.bind_some]

theorem exists_of_detect? (found : detect? text = some sentinel) :
    ∃ kind name rest, IsNamed kind name ∧
      Text.trimmed text.toList = '%' :: (name.toList ++ rest) ∧
      detectEnding kind rest = some sentinel := by
  unfold detect? at found
  split at found
  case h_1 named shown =>
    obtain ⟨kind, detected⟩ : ∃ kind, detectKind named kind = some sentinel := exists_of_orElse found
    obtain ⟨rest, after, ending⟩ := Option.bind_eq_some_iff.mp detected
    obtain ⟨name, isNamed, rfl⟩ := afterName?_eq_some_iff.mp after
    exact ⟨kind, name, rest, isNamed, shown, ending⟩
  case h_2 => cases found

/-- A sentinel is seen in a text exactly when the text, trimmed, spells it. -/
theorem detect?_eq_some_iff : detect? text = some sentinel ↔ Spells sentinel (Text.trim text) := by
  constructor
  · intro found
    obtain ⟨kind, name, rest, isNamed, shown, ending⟩ := exists_of_detect? found
    exact spells_of_detectEnding isNamed (by rw [Text.toList_trim, shown]) ending
  · intro spelled
    obtain ⟨kind, name, rest, isNamed, shown, ending⟩ := detectEnding_of_spells spelled
    rw [Text.toList_trim] at shown
    rw [detect?_of_named isNamed shown, ending]

theorem trim_enclosed (reason : String) :
    Text.trim (" (" ++ reason ++ ")") = "(" ++ reason ++ ")" := by
  have split : " (" ++ reason ++ ")" = " " ++ ("(" ++ reason ++ ")") ++ "" :=
    String.toList_inj.mp (by simp)
  have shape : ("(" ++ reason ++ ")").toList = '(' :: (reason.toList ++ [')']) := by simp
  rw [split, Text.trim_surrounded (by decide) (by decide) shape (by decide) (by decide)]

theorem trim_enclosed_joined (reason : String) :
    Text.trim ("(" ++ reason ++ ")") = "(" ++ reason ++ ")" := by
  rw [← trim_enclosed, Text.trim_trim]

/-- A written sentinel is spelled, and its reason is trimmed. -/
theorem spells_of_writes (isNamed : IsNamed kind name) (writes : Writes name reason written) :
    Spells ⟨kind, Text.trim? reason⟩ written := by
  cases writes with
  | spaced =>
    have split : "%" ++ name ++ "% (" ++ reason ++ ")" =
        "%" ++ name ++ "%" ++ (" (" ++ reason ++ ")") := String.toList_inj.mp (by simp)
    rw [split]
    exact .remark isNamed (trim_enclosed reason)
  | joined =>
    have split : "%" ++ name ++ "%(" ++ reason ++ ")" =
        "%" ++ name ++ "%" ++ ("(" ++ reason ++ ")") := String.toList_inj.mp (by simp)
    rw [split]
    exact .remark isNamed (trim_enclosed_joined reason)
  | colon => exact .colon isNamed reason
  | parenthesised => exact .parenthesised isNamed reason

theorem visible_ends_of_writes (writes : Writes name reason written) :
    ∃ inside last, written.toList = '%' :: (inside ++ [last]) ∧ Text.isBlank last = false := by
  cases writes with
  | spaced => exact ⟨name.toList ++ ['%', ' ', '('] ++ reason.toList, ')', by simp, by decide⟩
  | joined => exact ⟨name.toList ++ ['%', '('] ++ reason.toList, ')', by simp, by decide⟩
  | colon => exact ⟨name.toList ++ [':'] ++ reason.toList, '%', by simp, by decide⟩
  | parenthesised => exact ⟨name.toList ++ ['('] ++ reason.toList ++ [')'], '%', by simp, by decide⟩

theorem isBare_of_spells (spelled : Spells sentinel text) (given : sentinel.reason = some reason) :
    Text.IsBare reason := by
  cases spelled with
  | colon | parenthesised | remark =>
    dsimp only at given
    exact Text.isBare_of_trim? given
  | token => cases given

/-- A sentinel is read in each of its spellings, in capitals or small letters and with white space
around it, whatever its reason holds. A text that one is seen in spells it, and the reason is never
blank and has no white space at either end. -/
theorem detect?_spelling :
    (∀ kind name reason written before after, IsNamed kind name → Writes name reason written →
      Text.IsBlank before → Text.IsBlank after →
        detect? (before ++ written ++ after) = some ⟨kind, Text.trim? reason⟩) ∧
    (∀ text sentinel, detect? text = some sentinel ↔ Spells sentinel (Text.trim text)) ∧
    ∀ text sentinel reason, detect? text = some sentinel → sentinel.reason = some reason →
      Text.IsBare reason := by
  refine ⟨?_, fun _ _ => detect?_eq_some_iff, ?_⟩
  · intro kind name reason written before after isNamed writes blankBefore blankAfter
    obtain ⟨inside, last, shape, visible⟩ := visible_ends_of_writes writes
    rw [detect?_eq_some_iff,
      Text.trim_surrounded blankBefore blankAfter shape (by decide) visible]
    exact spells_of_writes isNamed writes
  · intro text sentinel reason found given
    exact isBare_of_spells (detect?_eq_some_iff.mp found) given

/-- A reason that holds the marks of every spelling, in a text with a tab and a line break around
it; and a token with more behind it than a reason. -/
theorem detect?_closed_shop :
    detect? "\t%aBoRt(closed (100%): ask\nlater )%\n" =
        some ⟨.abort, some "closed (100%): ask\nlater"⟩ ∧
      Spells ⟨.skip, none⟩ "%skip% (closed) today" := by
  obtain ⟨reads, spells_iff, _⟩ := detect?_spelling
  constructor
  · have kept : Text.trim? "closed (100%): ask\nlater " = some "closed (100%): ask\nlater" := by
      decide +kernel
    have read := reads .abort "aBoRt" "closed (100%): ask\nlater " _ "\t" "\n"
      (isNamed_iff.mpr (by decide)) .parenthesised (by decide) (by decide)
    rw [kept] at read
    exact read
  · exact (spells_iff "%skip% (closed) today" ⟨.skip, none⟩).mp (by decide)

end Sentinel

end DocForm
