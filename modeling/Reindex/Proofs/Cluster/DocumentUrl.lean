import Reindex.Naming.IndexName
import Reindex.Proofs.Url.Base

/-!
# URLs of documents

A document is read and stored under the URL whose path is that of the base with three segments
behind it. The segment of an id is what `Url.kept?` leaves of it, so that ids of which the same is
left share one URL: `a`, tab, `b` and `ab`, or `.` and `..`, whose URL is not even that of a
document. Ids that stand as they are have URLs of their own.

Main statement: `RestClient.documentUrls_told_apart`.
-/

namespace Reindex

theorem ne_empty_of_legal {name : String} (legal : nameFault? name = none) : name ≠ "" := by
  rintro rfl
  cases legal

namespace RestClient

variable {address : String} {generation : ApiGeneration} {credentials : Credentials}
    {c : RestClient}

/-- Where `getDocument` and `putDocument` send their requests. -/
def documentUrl (c : RestClient) (index id : String) : Url :=
  c.url (c.generation.documentPath index id)

/-- The path that segments are added to. -/
def basePath (c : RestClient) : List Char := Url.stem (Url.popEmpty c.base.path)

/-- A segment, encoded as the scheme of the base has it. -/
def encoded (c : RestClient) (s : String) : List Char :=
  Url.segment (Url.isSpecial c.base.scheme) s.toList

theorem encoded_inj {s t : String} : c.encoded s = c.encoded t ↔ s = t :=
  Url.segment_inj.trans String.toList_inj

theorem slash_not_mem_encoded (s : String) : '/' ∉ c.encoded s :=
  Url.slash_not_mem_segment _

theorem stem_encoded {s : String} (nonempty : s ≠ "") (path : List Char) :
    Url.stem (path ++ '/' :: c.encoded s) = path ++ '/' :: c.encoded s :=
  Url.stem_segment path (Url.segment_ne_nil nonempty)

theorem documentUrl_text_inj {i j a b : String} :
    (c.documentUrl i a).text = (c.documentUrl j b).text ↔
    (c.documentUrl i a).path = (c.documentUrl j b).path :=
  Url.text_extend_inj

/-- What stands in front of the type word. -/
def indexPath (c : RestClient) (index : String) : List Char :=
  Url.stem (Url.land (Url.isSpecial c.base.scheme) (Url.popEmpty c.base.path) (Url.kept? index))

theorem indexPath_eq {index : String} (legal : nameFault? index = none) (plain : Url.Whole index) :
    c.indexPath index = c.basePath ++ '/' :: c.encoded index := by
  rw [indexPath, plain.land_eq]
  exact stem_encoded (ne_empty_of_legal legal) _

theorem length_indexPath_lt (c : RestClient) {index : String} (broken : ¬Url.Whole index) :
    (c.indexPath index).length < c.basePath.length + 1 + (c.encoded index).length :=
  (Url.stem_isPrefix _).length_le.trans_lt (Url.length_land_lt _ broken _)

theorem length_indexPath_le (c : RestClient) (index : String) :
    (c.indexPath index).length ≤ c.basePath.length + 1 + (c.encoded index).length :=
  (Url.stem_isPrefix _).length_le.trans (Url.length_land_le _ index _)

section

variable (rooted : Url.Rooted c.base.scheme c.base.path) (word : Url.PathWord c.generation.typeWord)
include rooted word

theorem documentUrl_path (index id : String) :
    (c.documentUrl index id).path =
      Url.land (Url.isSpecial c.base.scheme)
        (c.indexPath index ++ '/' :: c.encoded c.generation.typeWord)
        (Url.kept? id) := by
  rw [documentUrl, url, rooted.extend_path]
  simp only [ApiGeneration.documentPath, List.foldl_cons, List.foldl_nil, word.whole.land_eq]
  rfl

theorem text_eq_iff (index a b : String) :
    (c.documentUrl index a).text = (c.documentUrl index b).text ↔ Url.kept? a = Url.kept? b := by
  rw [documentUrl_text_inj, documentUrl_path rooted word, documentUrl_path rooted word]
  exact word.land_inj _

/-- What is not added as it stands leaves the path too short for its three segments. -/
theorem length_path_lt {index id : String} (broken : ¬(Url.Whole index ∧ Url.Whole id)) :
    (c.documentUrl index id).path.length <
      c.basePath.length + (c.encoded index).length + (c.encoded c.generation.typeWord).length +
        (c.encoded id).length + 3 := by
  have front : (c.indexPath index ++ '/' :: c.encoded c.generation.typeWord).length =
      (c.indexPath index).length + (c.encoded c.generation.typeWord).length + 1 := by
    rw [List.length_append, List.length_cons, Nat.add_assoc]
  have behind_word := stem_encoded (c := c) word.nonempty (c.indexPath index)
  rw [documentUrl_path rooted word]
  generalize c.indexPath index ++ '/' :: c.encoded c.generation.typeWord = path at front behind_word
  by_cases plain : Url.Whole index
  · have index_le := c.length_indexPath_le index
    have id_lt : _ < (Url.stem path).length + 1 + (c.encoded id).length :=
      Url.length_land_lt (Url.isSpecial c.base.scheme) (fun whole => broken ⟨plain, whole⟩) path
    rw [behind_word] at id_lt
    omega
  · have index_lt := c.length_indexPath_lt plain
    have id_le : _ ≤ (Url.stem path).length + 1 + (c.encoded id).length :=
      Url.length_land_le (Url.isSpecial c.base.scheme) id path
    rw [behind_word] at id_le
    omega

theorem path_eq_iff {index : String} (legal : nameFault? index = none) (id : String) :
    (c.documentUrl index id).path =
        c.basePath ++ '/' :: c.encoded index ++ '/' :: c.encoded c.generation.typeWord ++
          '/' :: c.encoded id ↔
      Url.Whole index ∧ Url.Whole id := by
  constructor
  · intro path
    by_contra broken
    have short := length_path_lt rooted word broken
    rw [path] at short
    simp only [List.length_append, List.length_cons] at short
    omega
  · rintro ⟨plain, whole⟩
    rw [documentUrl_path rooted word, whole.land_eq, stem_encoded word.nonempty,
      indexPath_eq legal plain]
    rfl

theorem text_eq_iff_of_whole {i j a b : String} (legal : nameFault? i = none) (plain : Url.Whole i)
    (legal' : nameFault? j = none) (plain' : Url.Whole j) (whole : Url.Whole a)
    (whole' : Url.Whole b) :
    (c.documentUrl i a).text = (c.documentUrl j b).text ↔ i = j ∧ a = b := by
  rw [documentUrl_text_inj, (path_eq_iff rooted word legal a).2 ⟨plain, whole⟩,
    (path_eq_iff rooted word legal' b).2 ⟨plain', whole'⟩]
  simp only [List.append_assoc, List.cons_append, List.append_cancel_left_eq, List.cons.injEq,
    true_and]
  rw [Url.append_slash_inj (slash_not_mem_encoded i) (slash_not_mem_encoded j)]
  simp only [List.append_cancel_left_eq, List.cons.injEq, true_and]
  exact and_congr encoded_inj encoded_inj

end

/-- How the URLs of documents are told apart. -/
structure ToldApart (c : RestClient) : Prop where
  /-- Within one index, by what is left of the id. -/
  by_id (index a b : String) :
    (c.documentUrl index a).text = (c.documentUrl index b).text ↔ Url.kept? a = Url.kept? b
  /-- The path is that of the base with the three segments exactly where index and id stand as they
  are. -/
  path_iff {index : String} (legal : nameFault? index = none) (id : String) :
    (c.documentUrl index id).path =
        c.basePath ++ '/' :: c.encoded index ++ '/' :: c.encoded c.generation.typeWord ++
          '/' :: c.encoded id ↔
      Url.Whole index ∧ Url.Whole id
  /-- Across indices, by index and id. -/
  by_place {i j a b : String} (legal : nameFault? i = none) (plain : Url.Whole i)
    (legal' : nameFault? j = none)
    (plain' : Url.Whole j) (whole : Url.Whole a) (whole' : Url.Whole b) :
    (c.documentUrl i a).text = (c.documentUrl j b).text ↔ i = j ∧ a = b

/-- For every address that a client can be made of, documents have URLs of their own, unless the
same is left of their ids. -/
theorem documentUrls_told_apart (made : ofAddress address generation credentials = .ok c)
    (word : Url.PathWord c.generation.typeWord) : c.ToldApart where
  by_id := text_eq_iff (rooted_of_ofAddress made) word
  path_iff := path_eq_iff (rooted_of_ofAddress made) word
  by_place := text_eq_iff_of_whole (rooted_of_ofAddress made) word

/-- A cluster on the own machine. -/
def localhost : RestClient where
  base := { scheme := "http", host := some "localhost".toList, port := some 9200, path := ['/'] }
  generation := .typeless

theorem ofAddress_localhost : ofAddress "http://localhost:9200" .typeless {} = .ok localhost := by
  decide +kernel

theorem pathWord_localhost : Url.PathWord localhost.generation.typeWord :=
  ⟨by decide, by decide, by decide⟩

theorem documentUrls_told_apart_localhost :
    (localhost.documentUrl "books" "a/b c").path =
        localhost.basePath ++ '/' :: localhost.encoded "books" ++ '/' :: localhost.encoded "_doc" ++
          '/' :: localhost.encoded "a/b c" ∧
      (localhost.documentUrl "books" "a/b").text ≠
        (localhost.documentUrl "books" "a%2Fb").text := by
  have apart := documentUrls_told_apart ofAddress_localhost pathWord_localhost
  have legal : nameFault? "books" = none := by decide +kernel
  refine ⟨(apart.path_iff legal "a/b c").2 ⟨by decide, by decide⟩, fun same => ?_⟩
  have ids := (apart.by_place legal (by decide) legal (by decide) (by decide) (by decide)).1 same
  exact absurd ids.2 (by decide)

/-- A tab is dropped from an id, whose URL is then that of another document. -/
theorem documentUrl_shared :
    ofAddress "http://localhost:9200" .typeless {} = .ok localhost ∧
    Url.PathWord localhost.generation.typeWord ∧
      nameFault? "books" = none ∧ "a\tb" ≠ "" ∧ "ab" ≠ "" ∧ "a\tb" ≠ "ab" ∧
      (localhost.documentUrl "books" "a\tb").text = (localhost.documentUrl "books" "ab").text :=
  ⟨ofAddress_localhost, pathWord_localhost,
    by decide +kernel, by decide, by decide, by decide, by decide +kernel⟩

end RestClient

end Reindex
