import Reindex.Proofs.Cluster.Aliases
import Reindex.Proofs.Lifecycle.Start

/-!
# Minted names are found again

A run with a time window mints its name behind the base name, and a run that updates an index looks
for a numbered sibling of the base name. The two agree on the windows that render to digits: a
pattern that is understood never renders to nothing, so that at least one digit stands behind the
base name.

Main statements: `TimeWindow.render_ne_nil`, and `NamingPolicy.resolve_of_carried` for the look-up.
-/

namespace Reindex

/-! ## What a window renders to -/

theorem Text.paddedDigits_ne_nil (width n : Nat) : Text.paddedDigits width n ≠ [] := by
  intro h
  have length := Text.length_paddedDigits width n
  have digits : 0 < (Nat.toDigits 10 n).length := Nat.length_toDigits_pos
  rw [h, List.length_nil] at length
  omega

theorem DateField.render_ne_nil (t : CivilTime) (f : DateField) : f.render t ≠ [] := by
  cases f with
  | year width =>
    rw [DateField.render, paddedYear]
    split
    · simp
    · exact Text.paddedDigits_ne_nil _ _
  | _ => exact Text.paddedDigits_ne_nil _ _

namespace TimeWindow

/-- The first of some parts, which is there, does not stand for nothing. -/
def Part.Solid : List Part → Prop
  | [] => False
  | .text cs :: _ => cs ≠ []
  | .run _ _ :: _ => True
  | .unclosed _ :: _ => True

theorem Part.solid_consLetter (c : Char) (parts : List Part) :
    Part.Solid (Part.consLetter c parts) := by
  unfold Part.consLetter
  split
  · split <;> trivial
  · trivial

/-- Text in quotes is not empty, for two quotes in a row stand for one. -/
theorem Part.solid_outside (position : Nat) {cs : List Char} (given : cs ≠ []) :
    Part.Solid (Part.outside position cs) := by
  refine Part.outside.induct (fun position cs => cs ≠ [] → Part.Solid (Part.outside position cs))
    (fun start acc position cs => acc ≠ [] ∨ cs.head? ≠ some '\'' →
      Part.Solid (Part.inside start acc position cs))
    ?nothing ?quote ?opening ?letter ?other ?unclosed ?inner ?closing ?quoted position cs given
  case nothing => exact fun position h => absurd rfl h
  case quote =>
    intro position rest ih _
    rw [Part.outside]
    simp [Part.Solid]
  case opening =>
    intro position rest single ih _
    rw [Part.outside]
    · refine ih (.inr fun quote => ?_)
      obtain ⟨rest', rfl⟩ := List.head?_eq_some_iff.1 quote
      exact single rest' rfl
    · exact single
  case letter =>
    intro position c rest double single isLetter ih _
    rw [Part.outside, if_pos isLetter]
    · exact Part.solid_consLetter c _
    · exact double
    · exact single
  case other =>
    intro position c rest double single isLetter ih _
    rw [Part.outside, if_neg isLetter]
    · simp [Part.Solid]
    · exact double
    · exact single
  case unclosed =>
    intro start acc position _
    rw [Part.inside]
    trivial
  case inner =>
    intro start acc position rest ih _
    rw [Part.inside]
    exact ih (.inl (by simp))
  case closing =>
    intro start acc position rest single ih h
    rw [Part.inside]
    · rcases h with full | other
      · simpa [Part.Solid] using full
      · exact absurd rfl other
    · exact single
  case quoted =>
    intro start acc position c rest double single ih _
    rw [Part.inside]
    · exact ih (.inl (by simp))
    · exact double
    · exact single

theorem Token.render_gathered (t : CivilTime) (cs : List Char) (tokens : List Token) :
    (Token.gathered cs ++ tokens).flatMap (Token.render t) = cs ++ tokens.flatMap
    (Token.render t) := by
  unfold Token.gathered
  split
  · rename_i empty
    simp [List.isEmpty_iff.1 empty]
  · simp [Token.render]

/-- A run of letters is a field, behind the text that was gathered. -/
theorem Token.ofParts_run {gathered : List Char} {letter : Char} {count : Nat} {parts : List Part}
    {tokens : List Token} (h : Token.ofParts gathered (.run letter count :: parts) = .ok tokens) :
    ∃ f others, DateField.ofRun? letter count = some f ∧ Token.ofParts [] parts = .ok others ∧
      tokens = Token.gathered gathered ++ .field f :: others := by
  rw [Token.ofParts] at h
  split at h
  · cases h
  · rename_i f named
    cases behind : Token.ofParts [] parts with
    | error fault =>
      rw [behind] at h
      cases h
    | ok others =>
      rw [behind] at h
      cases h
      exact ⟨f, others, named, rfl, rfl⟩

/-- What was gathered in front of some parts is rendered first. -/
theorem Token.render_ofParts (t : CivilTime) {parts : List Part} :
    ∀ {gathered : List Char} {tokens : List Token}, Token.ofParts gathered parts = .ok tokens →
      ∃ rest, tokens.flatMap (Token.render t) = gathered ++ rest := by
  induction parts with
  | nil =>
    intro gathered tokens h
    cases h
    exact ⟨[], by simpa using Token.render_gathered t gathered []⟩
  | cons part parts ih =>
    intro gathered tokens h
    cases part with
    | text cs =>
      obtain ⟨rest, rendered⟩ := ih h
      exact ⟨cs ++ rest, by rw [rendered, List.append_assoc]⟩
    | unclosed position => cases h
    | run c n =>
      obtain ⟨f, tokens, -, -, rfl⟩ := Token.ofParts_run h
      exact ⟨_, Token.render_gathered t gathered (.field f :: tokens)⟩

theorem tokens_of_parse {pattern : String} {window : TimeWindow}
    (parsed : parse pattern = .ok window) :
    pattern ≠ "" ∧ Token.ofParts [] (Part.ofPattern pattern.toList) = .ok window.tokens := by
  unfold parse at parsed
  split at parsed
  · cases parsed
  · rename_i full
    refine ⟨fun empty => full (by rw [empty]; rfl), ?_⟩
    cases made : Token.ofParts [] (Part.ofPattern pattern.toList) with
    | error fault =>
      rw [made] at parsed
      cases parsed
    | ok tokens =>
      rw [made] at parsed
      cases parsed
      rfl

/-- **A pattern that is understood renders to something.** -/
theorem render_ne_nil {pattern : String} {window : TimeWindow} (parsed : parse pattern = .ok window)
    (now : Instant) :
    (window.render now).toList ≠ [] := by
  obtain ⟨full, made⟩ := tokens_of_parse parsed
  have solid := Part.solid_outside 0 (show pattern.toList ≠ [] by simpa using full)
  rw [render, String.toList_ofList]
  unfold Part.ofPattern at made
  generalize Part.outside 0 pattern.toList = parts at solid made
  match parts with
  | [] => exact solid.elim
  | .text cs :: parts =>
    have gathered : Token.ofParts cs parts = .ok window.tokens := made
    obtain ⟨rest, rendered⟩ := Token.render_ofParts now.civil gathered
    rw [rendered]
    exact fun h => solid (List.append_eq_nil_iff.1 h).1
  | .unclosed position :: parts => cases made
  | .run c n :: parts =>
    obtain ⟨f, others, -, -, tokens⟩ := Token.ofParts_run made
    simp [tokens, Token.gathered, Token.render, DateField.render_ne_nil]

end TimeWindow

/-! ## Numbered siblings -/

theorem stripStart?_append (bs cs : List Char) : stripStart? bs (bs ++ cs) = some cs := by
  induction bs with
  | nil => rfl
  | cons b bs ih =>
    rw [List.cons_append, stripStart?, if_pos rfl]
    exact ih

/-- A name behind a base name is a numbered sibling if it is digits. -/
theorem isNumberedSibling_append {base text : String} (some : text.toList ≠ [])
    (digits : text.toList.all Char.isDigit = true) :
    isNumberedSibling base (base ++ text) = true := by
  unfold isNumberedSibling
  rw [String.toList_append, stripStart?_append]
  simpa [List.isEmpty_iff, digits] using some

namespace NamingPolicy

variable {policy : NamingPolicy} {index : String} {c : MemoryCluster}

/-- The window of a policy that was made is a pattern that is understood. -/
theorem parsed_of_make {base : String} {pattern : Option String} {update : Bool}
    (made : make base pattern update = .ok policy) :
    policy.update = update ∧ ∀ window, policy.window = some window →
    ∃ pattern, TimeWindow.parse pattern = .ok window := by
  unfold make at made
  cases legal : checkName base with
  | error e =>
    rw [legal] at made
    cases made
  | ok a =>
    rw [legal] at made
    cases pattern with
    | none =>
      cases made
      exact ⟨rfl, fun window h => by cases h⟩
    | some pattern =>
      cases parsed : TimeWindow.parse pattern with
      | error fault =>
        simp only [parsed] at made
        cases made
      | ok window =>
        simp only [parsed] at made
        cases made
        refine ⟨rfl, fun window' h => ?_⟩
        cases h
        exact ⟨pattern, parsed⟩

/-- **The look-up finds the numbered sibling** that alone carries the base name as alias. -/
theorem resolve_of_carried (lookup : policy.minting? = none)
    (carried : c.carriers policy.base = [index])
    (sibling : isNumberedSibling policy.base index = true) (now : Instant) :
    policy.resolve MemoryCluster.cluster now c = .ok (.behind policy.base index) c := by
  have looked : call (MemoryCluster.cluster.aliases (.ofAlias policy.base)) c =
      .ok (c.aliasTable (.ofAlias policy.base)) c := rfl
  have picked : pickCandidate policy.base (c.aliasTable (.ofAlias policy.base)) = .ok
    (.behind policy.base index) := by
    refine (pickCandidate_eq_ok_iff _ _ _).2 (.inr ⟨index, ?_, rfl⟩)
    unfold candidates
    rw [MemoryCluster.keys_aliasTable, carried]
    simp [sibling]
  unfold resolve
  rw [lookup]
  dsimp only
  rw [bind_of_ok looked, picked]
  rfl

end NamingPolicy

end Reindex
