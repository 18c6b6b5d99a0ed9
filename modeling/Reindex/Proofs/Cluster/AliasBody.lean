import Reindex.Cluster.Rest.Client
import Reindex.Proofs.Json.Members

/-!
# Aliases in the bodies of answers and requests

The answer to an alias look-up has a member for each index, and in it an object `aliases` with the
definition of each alias. A definition may have a filter, which may be null; that is not the same as
having none, and it has to come out of a look-up and go into an action as it is.

Main statements: `AliasTable.filter_ofJson` for what is read, `RestClient.actionJson_remove` and
`RestClient.actionJson_add` for what is sent.
-/

namespace Reindex

namespace AliasTable

/-- The aliases of an index, as the answer to a look-up has them. -/
def listing? (j : Json) (index : String) : Option Json := (j.get? index).bind (·.get? "aliases")

/-- The answer to a look-up lists the index: it has an object with the aliases of it. -/
def Lists (j : Json) (index : String) : Prop := ∃ members, listing? j index = some (.object members)

/-- The definition of an alias of an index. -/
def definition? (j : Json) (index name : String) : Option Json :=
  (listing? j index).bind (·.get? name)

variable {j : Json}

/-- The aliases in one entry of a table, each with its filter. -/
theorem get?_ofDefinitions {members : List (String × Json)} (ordered : Entries.Ordered members)
    (name : String) :
    (Dict.ofList (members.map fun (name, definition) => (name, definition.get? "filter"))).get?
      name =
      (Entries.get? name members).map (·.get? "filter") := by
  let filters := (⟨members, ordered⟩ : Dict Json).filterMap fun _ definition =>
    some (definition.get? "filter")
  have same : members.map (fun (name, definition) => (name, definition.get? "filter")) =
    filters.entries :=
    (congrFun List.filterMap_eq_map members).symm
  rw [same, Dict.ofList_entries, Dict.get?_filterMap]
  show (Entries.get? name members).bind _ = _
  cases Entries.get? name members <;> rfl

/-- The table that is read has an entry for each index that is listed. -/
theorem get?_ofJson (read : j.Read) (index : String) :
    (ofJson j).get? index = ((listing? j index).bind (·.asObject?)).map fun members =>
      Dict.ofList (members.map fun (name, definition) => (name, definition.get? "filter")) := by
  cases j with
  | object entries =>
    let entry : Json → Option Aliases :=
      fun e => ((e.get? "aliases").bind (·.asObject?)).map fun members =>
      Dict.ofList (members.map fun (name, definition) => (name, definition.get? "filter"))
    let table := (⟨entries, read.listed⟩ : Dict Json).filterMap fun _ e => entry e
    have same : ofJson (.object entries) = table := by
      refine Eq.trans (congrArg (fun f => Dict.ofList (entries.filterMap f)) ?_)
        (Dict.ofList_entries table)
      funext e
      exact (Option.map_map ..).symm
    rw [same, Dict.get?_filterMap]
    show (Entries.get? index entries).bind entry =
      (((Entries.get? index entries).bind (·.get? "aliases")).bind (·.asObject?)).map _
    cases Entries.get? index entries <;> rfl
  | _ => rfl

theorem mem_keys_ofJson (read : j.Read) (index : String) :
    index ∈ (ofJson j).keys ↔ Lists j index := by
  rw [Dict.mem_keys, Dict.contains_eq, get?_ofJson read, Option.isSome_map]
  unfold Lists
  cases listing? j index with
  | none => simp
  | some aliases => cases aliases <;> simp [Json.asObject?]

/-- **What is read of an alias**: it is there if it has a definition, and has the filter that this
has. -/
theorem filter_ofJson (read : j.Read) (index name : String) :
    (((ofJson j).get? index).getD ∅).get? name = (definition? j index name).map
      (·.get? "filter") := by
  rw [get?_ofJson read]
  unfold definition?
  cases listed : listing? j index with
  | none => rfl
  | some aliases =>
    cases aliases with
    | object members =>
      obtain ⟨entry, found, listed⟩ := Option.bind_eq_some_iff.1 listed
      exact get?_ofDefinitions ((read.get? found).get? listed).listed name
    | _ => rfl

end AliasTable

namespace RestClient

/-- What is sent to take an alias off an index. -/
def removal (index name : String) : Json :=
  .object [("remove", .object [("alias", .string name), ("index", .string index)])]

/-- What is sent to add an alias to an index. It has a filter exactly if there is one, be it
null. -/
def addition (index name : String) (filter : Option Json) : Json :=
  .object [("add",
    .object ([("alias", .string name)] ++ (filter.map fun f => ("filter", f)).toList ++
    [("index", .string index)]))]

theorem alias_before_index : "alias" < "index" := by decide

theorem actionJson_remove (index name : String) :
    actionJson (.remove index name) = removal index name := by
  simp only [actionJson, removal, Json.ofMembers, Entries.ofList, List.foldl_cons, List.foldl_nil,
    Entries.insert, if_pos alias_before_index]

theorem actionJson_add (index name : String) (filter : Option Json) :
    actionJson (.add index name filter) = addition index name filter := by
  have behind : ¬ "filter" < "alias" := by decide
  have other : "filter" ≠ "alias" := by decide
  have before : "filter" < "index" := by decide
  cases filter with
  | none =>
    simp only [actionJson, addition, Json.ofMembers, Entries.ofList, Entries.insert,
      if_pos alias_before_index, List.foldl_cons, List.foldl_nil, List.cons_append, List.nil_append,
        Option.map_none, Option.toList_none]
  | some value =>
    simp only [actionJson, addition, Json.ofMembers, Entries.ofList, Entries.insert,
      if_pos alias_before_index, if_neg behind, if_neg other, if_pos before, List.foldl_cons,
        List.foldl_nil, List.cons_append, List.nil_append,
      Option.map_some, Option.toList_some]

end RestClient

end Reindex
