import Reindex.CommandLine
import Reindex.Proofs.Naming.Grammar

/-!
# What is minted with a window

A run with a time window writes into the base name followed by what the window renders to. The name
is longer than the base name, or it is refused. But a year has as many places as its pattern has
letters, and the parsing sets them no limit: where there are more than can be written, there is no
name, nor is it refused.

Main statement: `TimeWindow.parse_iff_reads`. A pattern is understood exactly if it is not empty and
its runs name fields, and what is written under it are its pieces, if there are the places for them.
-/

namespace Reindex

namespace NamingPolicy

theorem make_some_eq_ok {base pattern : String} {update : Bool} {policy : NamingPolicy} :
    make base (some pattern) update = .ok policy ↔
      nameFault? base = none ∧ ∃ window, TimeWindow.parse pattern = .ok window ∧
      policy = ⟨base, some window, update⟩ := by
  unfold make checkName
  cases nameFault? base with
  | some fault => exact ⟨nofun, fun h => nomatch h.1⟩
  | none =>
    cases parsed : TimeWindow.parse pattern with
    | error fault =>
      refine ⟨fun h => ?_, fun ⟨_, _, h, _⟩ => nomatch h⟩
      simp only [parsed] at h
      cases h
    | ok window =>
      simp only [parsed, Except.ok.injEq, exists_eq_left', true_and]
      exact ⟨fun h => (Except.ok.inj h).symm, fun h => congrArg Except.ok h.symm⟩

/-- **A minted name** is refused, or it is legal and longer than its base name. -/
theorem resolve_minting {policy : NamingPolicy} {window : TimeWindow}
    (minting : policy.minting? = some window) {now : Instant} (some : window.render now ≠ "")
    {σ τ : Type} (cluster : Cluster σ τ) (s : σ) :
    (∃ e, policy.resolve cluster now s = .error e s) ∨
      ∃ index, policy.resolve cluster now s = .ok (.behind policy.base index) s ∧
        nameFault? index = none ∧
        policy.base.length < index.length := by
  have resolved : policy.resolve cluster now s = (ofExcept (policy.mint window now) :
    EStateM Error σ Identity) s := by
    unfold resolve
    rw [minting]
  have longer : policy.base.length < (policy.base ++ window.render now).length := by
    have : (window.render now).length ≠ 0 := by simpa using some
    rw [String.length_append]
    omega
  rw [resolved]
  unfold mint checkName
  dsimp only
  cases legal : nameFault? (policy.base ++ window.render now) with
  | some fault => exact .inl ⟨_, rfl⟩
  | none => exact .inr ⟨_, rfl, legal, longer⟩

end NamingPolicy

/-- A run that mints its name breaks down there exactly if the window cannot be written. -/
theorem Command.ending_of_minting {config : Config} {files : Files} {wire : Wire}
    {deployment : Deployment} {policy : NamingPolicy} {payload : IndexPayload} {window : TimeWindow}
    (addressed : Deployment.ofConfig config.cluster wire = .ok deployment)
    (named : config.namingPolicy = .ok policy)
    (loaded : config.index.loadPayload files = .ok payload)
    (minting : policy.minting? = some window) (now : Instant) :
    ending config files wire now =
      if window.isWritable then carryOut config files wire now else ⟨101, []⟩ := by
  have broken : breaksDownAtName config files wire = !window.isWritable := by
    simp only [breaksDownAtName, addressed, named, loaded, minting, Option.any_some]
  unfold ending
  rw [broken]
  cases window.isWritable <;> rfl

namespace TimeWindow

/-- **Patterns that are understood, and what is written under them.** They are the sequences of
pieces that are not empty and whose runs name fields. What is written are the pieces, one after
another, and never nothing, where there are the places for it; then a name is refused or is legal
and longer than its base name. Where there are not, the process breaks down. -/
theorem parse_iff_reads (pattern : String) :
    ((∃ window, parse pattern = .ok window) ↔
      pattern ≠ "" ∧ ∃ pieces, Reads pattern.toList pieces ∧ ∀ p ∈ pieces, p.Supported) ∧
    ∀ window pieces, parse pattern = .ok window → Reads pattern.toList pieces →
      (∀ now text, window.written? now = some text ↔
        (∀ n, .run 'y' n ∈ pieces → n ≤ mostPlaces) ∧
        text.toList = pieces.flatMap (Piece.render now.civil)) ∧
      (∀ now, window.written? now ≠ some "") ∧
      Merged window.tokens ∧
      ∀ base policy, NamingPolicy.make base (some pattern) false = .ok policy →
        (window.isWritable = true → ∀ {σ τ : Type} (cluster : Cluster σ τ) (now : Instant) (s : σ),
          (∃ e, policy.resolve cluster now s = .error e s) ∨
            ∃ index, policy.resolve cluster now s = .ok (.behind base index) s ∧
              nameFault? index = none ∧
              base.length < index.length) ∧
        ∀ config files wire deployment payload now,
          Deployment.ofConfig config.cluster wire = .ok deployment →
          config.namingPolicy = .ok policy → config.index.loadPayload files = .ok payload →
          Command.ending config files wire now =
            if window.isWritable then Command.carryOut config files wire now else ⟨101, []⟩ := by
  refine ⟨⟨fun ⟨window, parsed⟩ => ?_, fun ⟨full, pieces, read, supported⟩ =>
    read.parse supported full⟩,
    fun window pieces parsed read => ?_⟩
  · obtain ⟨pieces, read⟩ := exists_reads_of_parse parsed
    exact ⟨(tokens_of_parse parsed).1, pieces, read, (of_parse parsed read).1⟩
  · obtain ⟨-, renders, writes⟩ := of_parse parsed read
    have some (now : Instant) : window.render now ≠ "" :=
      fun empty => render_ne_nil parsed now (by rw [empty]; rfl)
    refine ⟨fun now text => ?_, fun now nothing => ?_,
      Token.merged_ofParts (tokens_of_parse parsed).2, fun base policy made => ?_⟩
    · rw [← writes, ← renders, String.toList_inj]
      unfold written?
      cases window.isWritable <;> simp [eq_comm]
    · unfold written? at nothing
      split at nothing
      · exact some now (Option.some.inj nothing)
      · cases nothing
    · obtain ⟨-, window', parsed', rfl⟩ := NamingPolicy.make_some_eq_ok.1 made
      cases parsed.symm.trans parsed'
      exact ⟨fun _ _ _ cluster now s => NamingPolicy.resolve_minting rfl (some now) cluster s,
        fun config files wire deployment payload now addressed named loaded =>
          Command.ending_of_minting addressed named loaded rfl now⟩

/-- Text in quotes, a quote in it and one on its own, beside fields. -/
theorem parse_iff_reads_week :
    let pattern := "'week'''yyyy-M''"
    let pieces := [.quoted ['w', 'e', 'e', 'k', '\''], .run 'y' 4, .plain '-', .run 'M' 1, .quote]
    let march : Instant := ⟨1709251200, 0⟩
    let config : Config :=
      { cluster := .memory .green, index := { name := "books", timeWindow := some pattern } }
    let files : Files := fun _ => .absent
    ∃ window policy payload, parse pattern = .ok window ∧ Reads pattern.toList pieces ∧
      config.namingPolicy = .ok policy ∧ config.index.loadPayload files = .ok payload ∧
      window.written? march = some "week'2024-3'" ∧ Merged window.tokens ∧
      policy.resolve MemoryCluster.cluster march {} = .ok (.behind "books" "booksweek'2024-3'") {} ∧
      Command.ending config files .down march = Command.carryOut config files .down march := by
  intro pattern pieces march config files
  let window : TimeWindow :=
    ⟨pattern, [.literal ['w', 'e', 'e', 'k', '\''], .field (.year 4), .literal ['-'],
      .field (.month false), .literal ['\'']]⟩
  let policy : NamingPolicy := ⟨"books", some window, false⟩
  have read : Reads pattern.toList pieces := by
    refine ⟨by decide +kernel, ?_, ?_⟩
    · simp [pieces, Piece.Formed, isLetter]
    · simp [pieces, Piece.EndsBefore]
  have parsed : parse pattern = .ok window := eq_ok_of_toOption (by decide +kernel)
  have made : NamingPolicy.make "books" (some pattern) false = .ok policy :=
    NamingPolicy.make_some_eq_ok.2 ⟨by decide +kernel, window, parsed, rfl⟩
  obtain ⟨writes, -, merged, named⟩ := (parse_iff_reads pattern).2 window pieces parsed read
  obtain ⟨resolves, ends⟩ := named "books" policy made
  have answered : answer? (policy.resolve MemoryCluster.cluster march {}) =
    some (.behind "books" "booksweek'2024-3'") := by
    decide +kernel
  refine ⟨window, policy, _, parsed, read, made, rfl,
    (writes march _).2 ⟨by simp [pieces, mostPlaces], by decide +kernel⟩, merged, ?_, ?_⟩
  · rcases resolves rfl MemoryCluster.cluster march {} with ⟨e, refused⟩ | ⟨index, resolved, -, -⟩
    · rw [refused] at answered
      cases answered
    · rw [resolved] at answered ⊢
      cases answered
      rfl
  · exact ends config files .down _ _ march rfl made rfl

/-- A year of some letters and nothing else. -/
theorem reads_years {n : Nat} (some : 0 < n) : Reads (List.replicate n 'y') [.run 'y' n] := by
  have read := Reads.nil.cons (.run 'y' n) ⟨by decide, some⟩ fun q h => by cases h
  rwa [Piece.spelling, List.append_nil] at read

/-- **A pattern that is understood breaks the run down.** It asks for a year of more places than can
be written. -/
theorem parse_unwritable_year :
    let pattern := String.ofList (List.replicate 65536 'y')
    let config : Config :=
      { cluster := .memory .green, index := { name := "books", timeWindow := some pattern } }
    ∃ window, parse pattern = .ok window ∧ (∀ now, window.written? now = none) ∧
      ∀ now, Command.ending config (fun _ => .absent) .down now = ⟨101, []⟩ := by
  generalize given : 65536 = n
  intro pattern config
  have read : Reads pattern.toList [.run 'y' n] := by
    rw [String.toList_ofList]
    exact reads_years (by omega)
  have full : pattern ≠ "" := fun empty => by
    have letters := congrArg (·.toList.length) empty
    simp only [pattern, String.toList_ofList, List.length_replicate] at letters
    change n = 0 at letters
    omega
  obtain ⟨window, parsed⟩ := read.parse (List.forall_mem_singleton.2 (.inl rfl)) full
  have narrow : window.isWritable = false := by
    rw [Bool.eq_false_iff]
    intro writable
    have places := (of_parse parsed read).2.2.1 writable n (.head _)
    have most : mostPlaces = 65535 := rfl
    omega
  have legal : nameFault? "books" = none := by decide +kernel
  have made : config.namingPolicy = .ok ⟨"books", some window, false⟩ :=
    NamingPolicy.make_some_eq_ok.2 ⟨legal, window, parsed, rfl⟩
  refine ⟨window, parsed, fun now => ?_, fun now => ?_⟩
  · rw [written?, narrow]
    rfl
  · rw [Command.ending_of_minting rfl made rfl rfl now, narrow]
    rfl

end TimeWindow

end Reindex
