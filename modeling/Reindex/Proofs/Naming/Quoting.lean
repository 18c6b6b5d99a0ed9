import Reindex.Proofs.Naming.Grammar

/-!
# Text in quotes

A text is put into a pattern by writing it in quotes with every quote in it doubled. Each quote at
its beginning is then a pair with the one in front of it, and what opens a text in quotes is the
first that has another character behind it. If there is none, because the text is made of quotes
only, then the closing quote is the other half of a pair and stands for one quote more.

Main statement: `TimeWindow.parse_quotedPattern`.
-/

namespace Reindex.TimeWindow

/-- A text in quotes, with every quote in it doubled. -/
def quotedPattern (s : String) : String :=
  String.ofList ('\'' :: s.toList.flatMap Piece.doubled ++ ['\''])

/-- What a text in quotes stands for: itself, if it has a character other than a quote. -/
def unquoted (s : String) : String := if s.toList.all (· == '\'') then s ++ "'" else s

/-- The pieces of a text in quotes are pairs of quotes and then the text from its first other
character on. -/
theorem exists_reads_quoted (cs : List Char) :
    ∃ pieces, Reads ('\'' :: cs.flatMap Piece.doubled ++ ['\'']) pieces ∧
      (∀ p ∈ pieces, p.Supported ∧ ∀ letter n, .run letter n ≠ p) ∧
      ∀ t, pieces.flatMap (Piece.render t) = if cs.all (· == '\'') then cs ++ ['\''] else cs := by
  induction cs with
  | nil =>
    refine ⟨[.quote], Reads.nil.cons .quote trivial nofun,
      List.forall_mem_singleton.2 ⟨trivial, nofun⟩, fun t => ?_⟩
    rfl
  | cons c cs ih =>
    by_cases quote : c = '\''
    · -- The quote in front and the first of the two are a pair, and the second takes its place.
      subst quote
      obtain ⟨pieces, read, plain, renders⟩ := ih
      refine ⟨.quote :: pieces, read.cons .quote trivial fun q _ => by cases q <;> trivial,
        List.forall_mem_cons.2 ⟨⟨trivial, nofun⟩, plain⟩, fun t => ?_⟩
      simp only [List.flatMap_cons, renders, List.all_cons, beq_self_eq_true, Bool.true_and]
      split <;> rfl
    · have read := Reads.nil.cons (.quoted (c :: cs)) ⟨c, cs, rfl, quote⟩ nofun
      rw [List.append_nil] at read
      refine ⟨_, read, List.forall_mem_singleton.2 ⟨trivial, nofun⟩, fun t => ?_⟩
      rw [List.all_cons, beq_false_of_ne quote, Bool.false_and, if_neg Bool.false_ne_true,
        List.flatMap_singleton]
      rfl

/-- **Quoting makes a text literal,** at every instant, unless it is made of quotes only: then it
has one quote more. -/
theorem parse_quotedPattern (s : String) :
    ∃ window, parse (quotedPattern s) = .ok window ∧
      ∀ now, window.written? now = some (unquoted s) := by
  obtain ⟨pieces, read, plain, renders⟩ := exists_reads_quoted s.toList
  have spelled : (quotedPattern s).toList = '\'' :: s.toList.flatMap Piece.doubled ++ ['\''] :=
    String.toList_ofList
  rw [← spelled] at read
  have full : quotedPattern s ≠ "" := fun empty => by
    rw [empty] at spelled
    cases spelled
  obtain ⟨window, parsed⟩ := read.parse (fun p hp => (plain p hp).1) full
  obtain ⟨-, rendered, writable⟩ := of_parse parsed read
  refine ⟨window, parsed, fun now => ?_⟩
  have places : window.isWritable = true := writable.2 fun n year =>
    absurd rfl ((plain _ year).2 'y' n)
  rw [written?, if_pos places, Option.some.injEq, ← String.toList_inj, rendered, renders, unquoted]
  split <;> simp

/-- **A text of quotes only does not become literal:** one quote is rendered as two. -/
theorem parse_quotedPattern_quote :
    ¬ ∀ s : String, s ≠ "" → ∀ now, ∃ window, parse (quotedPattern s) = .ok window ∧
    window.written? now = some s := by
  intro literal
  obtain ⟨window, parsed, written⟩ := literal "'" (by decide) ⟨0, 0⟩
  have twice : parse (quotedPattern "'") = .ok ⟨"''''", [.literal ['\'', '\'']]⟩ :=
    eq_ok_of_toOption (by decide +kernel)
  cases parsed.symm.trans twice
  exact absurd written (by decide +kernel)

end Reindex.TimeWindow
