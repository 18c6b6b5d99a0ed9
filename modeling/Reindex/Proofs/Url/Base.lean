import Reindex.Cluster.Rest.Client
import Reindex.Proofs.Url.Path

/-!
# Base addresses

The path of a URL that is read begins with a slash, is empty behind an authority, or is one text
that can not be extended. `RestClient.ofAddress` refuses the last, so that every client builds on a
rooted path.

Main statement: `RestClient.rooted_of_ofAddress`.
-/

namespace Reindex

namespace Url

/-! ## Paths as they are read -/

theorem head?_stepBack {path : List Char} (h : path.head? = some '/') :
    (stepBack path).head? = some '/' := by
  have within := stepBack_isPrefix path
  have nonempty := stepBack_ne_nil (List.mem_of_mem_head? h)
  cases back : stepBack path with
  | nil => exact absurd back nonempty
  | cons c rest =>
    obtain ⟨behind, split⟩ := back ▸ within
    rw [← split] at h
    exact h

theorem head?_addPiece {inSet : Char → Bool} {path : List Char} (h : path.head? = some '/')
    (piece : List Char) (slash : Bool) : (addPiece inSet path piece slash).head? = some '/' := by
  unfold addPiece
  dsimp only
  split
  · exact head?_stepBack h
  · split
    · exact h
    · rw [List.append_assoc, List.head?_append, h]
      rfl

theorem head?_addPieces {path : List Char} (h : path.head? = some '/') (pieces : List (List Char)) :
    (addPieces path pieces).head? = some '/' := by
  induction path, pieces using addPieces.induct with
  | case1 path => exact h
  | case2 path last => exact head?_addPiece h last false
  | case3 path piece rest more ih =>
    rw [addPieces]
    · exact ih (head?_addPiece h piece true)
    · exact more

theorem head?_readPath (special : Bool) (cs : List Char) : (readPath special cs).head? = some '/' :=
  head?_addPieces rfl _

/-- Only the scheme `file` asks for more than a slash in front. -/
theorem rooted_of_head? {scheme : String} (other : scheme ≠ "file") {path : List Char}
    (h : path.head? = some '/') :
    Rooted scheme path := by
  obtain ⟨rest, eq⟩ := List.head?_eq_some_iff.1 h
  exact .inr ⟨rest, eq, fun file => absurd file other⟩

theorem rooted_trimRoot {scheme : String} (path : List Char) : Rooted scheme (trimRoot path) := by
  refine .inr ⟨path.dropWhile (· = '/'), rfl, fun _ first => ?_⟩
  have := List.head?_dropWhile_not (· = '/') path
  rw [first] at this
  simp at this

/-! ## URLs as they are read -/

theorem rooted_of_readAuthority? {scheme : String} (other : scheme ≠ "file") {cs : List Char}
    {u : Url} (read : readAuthority? scheme cs = some u) : Rooted u.scheme u.path := by
  unfold readAuthority? at read
  dsimp only at read
  obtain ⟨parts, -, read⟩ := Option.bind_eq_some_iff.1 read
  -- There are three ways to read the host; the path is made alike behind all of them.
  split at read <;> [skip; split at read]
  all_goals
    obtain ⟨host, -, read⟩ := Option.bind_eq_some_iff.1 read
    obtain ⟨port, -, read⟩ := Option.bind_eq_some_iff.1 read
    cases read
    dsimp only
    split
    · exact .inl rfl
    · exact rooted_of_head? other (head?_readPath _ _)

theorem rooted_of_readFile? {cs : List Char} {u : Url} (read : readFile? cs = some u) :
    Rooted u.scheme u.path := by
  unfold readFile? at read
  extract_lets _ at read
  -- Whatever the parts of the text are: the path is trimmed at the end.
  split at read
  split at read
  dsimp only [splitTail] at read
  split at read
  all_goals
    simp only [Option.bind_eq_bind, Option.bind_eq_some_iff, Option.pure_def,
      Option.some.injEq] at read
    obtain ⟨_, _, rfl⟩ := read
    exact rooted_trimRoot _

theorem rooted_of_readScheme? {scheme : String} {cs : List Char} {u : Url}
    (read : readScheme? scheme cs = some u) (based : u.isOpaque = false) :
    Rooted u.scheme u.path := by
  unfold readScheme? at read
  split at read
  · exact rooted_of_readFile? read
  · next other =>
    split at read
    · exact rooted_of_readAuthority? other read
    · split at read
      · exact rooted_of_readAuthority? other read
      · cases read
        exact rooted_of_head? other (head?_readPath _ _)
      · cases read
        refine rooted_of_head? other ?_
        simpa [isOpaque] using based

theorem rooted_of_read? {s : String} {u : Url} (read : read? s = some u)
    (based : u.isOpaque = false) :
    Rooted u.scheme u.path := by
  unfold read? at read
  dsimp only at read
  split at read
  · split at read
    · exact rooted_of_readScheme? read based
    · cases read
  · cases read

end Url

namespace RestClient

/-- What the client of an address keeps of it. -/
theorem rooted_of_ofAddress {address : String} {generation : ApiGeneration}
    {credentials : Credentials} {c : RestClient}
    (made : ofAddress address generation credentials = .ok c) :
    Url.Rooted c.base.scheme c.base.path := by
  unfold ofAddress at made
  split at made
  · cases made
  · next u read =>
    split at made
    · cases made
    · next based =>
      cases made
      have rooted := Url.rooted_of_read? read (by simpa using based)
      unfold Url.withoutHeader
      split <;> exact rooted

end RestClient

end Reindex
