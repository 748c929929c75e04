import LintServer.Grouping

set_option autoImplicit false

namespace LintServer

theorem Text.compare_eq_lt_iff (a b : Text) : compare a b = .lt ↔ a < b := by
  rw [List.compare_eq_compareLex]
  induction a generalizing b with
  | nil => cases b <;> simp [List.compareLex]
  | cons x a ih =>
    cases b with
    | nil => simp [List.compareLex]
    | cons y b =>
      rw [List.compareLex_cons_cons, Ordering.then_eq_lt, Std.compare_eq_lt, Std.compare_eq_iff_eq,
        ih, List.cons_lt_cons_iff]

theorem keys_increasing {β : Type} (map : Std.ExtTreeMap Uri β) : map.keys.Pairwise (· < ·) :=
  map.ordered_keys.imp fun {a b} => (Text.compare_eq_lt_iff a b).mp

namespace Groups

variable {α : Type}

theorem of_eq_nil {groups : Groups α} {uri : Uri} (missing : uri ∉ groups) : groups.of uri = [] := by
  rw [of, Std.ExtTreeMap.getElem?_eq_none missing, Option.getD_none]

theorem getElem?_add (groups : Groups α) (uri key : Uri) (a : α) :
    (groups.add uri a)[key]? = if uri = key then some (groups.of uri ++ [a]) else groups[key]? := by
  simp [add, of, Std.ExtTreeMap.getElem?_alter]

def Populated (groups : Groups α) : Prop := ∀ (uri : Uri) values, groups[uri]? = some values → values ≠ []

theorem Populated.add {groups : Groups α} (populated : groups.Populated) (uri : Uri) (a : α) :
    (groups.add uri a).Populated := by
  intro key values found
  rw [getElem?_add] at found
  split at found
  · rw [← Option.some.inj found]
    simp
  · exact populated key values found

theorem ofList_populated (pairs : List (Uri × α)) : (ofList pairs).Populated := by
  have fold (groups : Groups α) (populated : groups.Populated) :
      (pairs.foldl (fun groups p => groups.add p.1 p.2) groups).Populated := by
    induction pairs generalizing groups with
    | nil => exact populated
    | cons p pairs ih => exact ih _ (populated.add p.1 p.2)
  exact fold ∅ (by intro uri values found; simp at found)

theorem Populated.mem_iff {groups : Groups α} (populated : groups.Populated) (uri : Uri) :
    uri ∈ groups ↔ groups.of uri ≠ [] := by
  rw [← Std.ExtTreeMap.isSome_getElem?_iff_mem, of]
  cases found : groups[uri]? with
  | none => simp
  | some values => simpa using populated uri values found

theorem of_add (groups : Groups α) (uri key : Uri) (a : α) :
    (groups.add uri a).of key = groups.of key ++ if uri = key then [a] else [] := by
  rw [of, getElem?_add]
  by_cases same : uri = key
  · simp [same]
  · simp [same, of]

theorem of_foldl_add (groups : Groups α) (pairs : List (Uri × α)) (uri : Uri) :
    (pairs.foldl (fun groups p => groups.add p.1 p.2) groups).of uri =
      groups.of uri ++ (pairs.filter (·.1 = uri)).map Prod.snd := by
  induction pairs generalizing groups with
  | nil => simp
  | cons p pairs ih =>
    rw [List.foldl_cons, ih, of_add]
    by_cases same : p.1 = uri <;> simp [same]

theorem of_ofList (pairs : List (Uri × α)) (uri : Uri) :
    (ofList pairs).of uri = (pairs.filter (·.1 = uri)).map Prod.snd := by
  rw [ofList, of_foldl_add]
  simp [of]

theorem getElem?_ofList (pairs : List (Uri × α)) (uri : Uri) :
    (ofList pairs)[uri]? =
      let values := (pairs.filter (·.1 = uri)).map Prod.snd
      if values = [] then none else some values := by
  rw [← of_ofList, of]
  cases found : (ofList pairs)[uri]? with
  | none => rfl
  | some values =>
    have filled := ofList_populated pairs uri values found
    simp [filled]

theorem toList_eq (groups : Groups α) :
    groups.toList = groups.keys.map fun uri => (uri, groups.of uri) := by
  have same : ∀ group ∈ groups.toList, (group.1, groups.of group.1) = group := by
    rintro ⟨uri, values⟩ member
    have found := Std.ExtTreeMap.mem_toList_iff_getElem?_eq_some.mp member
    simp [of, found]
  rw [← Std.ExtTreeMap.map_fst_toList_eq_keys, List.map_map]
  exact ((List.map_congr_left same).trans (List.map_id _)).symm

def flatten (groups : Groups α) : List (Uri × α) :=
  groups.toList.flatMap fun group => group.2.map (group.1, ·)

theorem filter_flatten (groups : Groups α) (uri : Uri) :
    groups.flatten.filter (·.1 = uri) = (groups.of uri).map (uri, ·) := by
  -- A document has one group at most, so only its own group survives the filter.
  have single (keys : List Uri) (distinct : keys.Pairwise (· < ·)) :
      keys.flatMap (fun key => ((groups.of key).map (key, ·)).filter (·.1 = uri)) =
        if uri ∈ keys then (groups.of uri).map (uri, ·) else [] := by
    induction keys with
    | nil => rfl
    | cons key keys ih =>
      obtain ⟨first, distinct⟩ := List.pairwise_cons.mp distinct
      have fresh : key ∉ keys := fun member => List.lt_irrefl key (first key member)
      rw [List.flatMap_cons, ih distinct]
      by_cases same : key = uri
      · simp [← same, fresh]
      · simp [same, Ne.symm same]
  rw [flatten, toList_eq, List.flatMap_map, List.filter_flatMap, single _ (keys_increasing groups)]
  split
  · rfl
  · next missing =>
    rw [of_eq_nil (fun member => missing (Std.ExtTreeMap.mem_keys.mpr member)), List.map_nil]

theorem filter_flatten_foldl_add (groups : Groups α) (pairs : List (Uri × α)) (uri : Uri) :
    (flatten (pairs.foldl (fun groups p => groups.add p.1 p.2) groups)).filter (·.1 = uri) =
      (groups.flatten ++ pairs).filter (·.1 = uri) := by
  have same : ∀ p ∈ pairs.filter (·.1 = uri), (uri, p.2) = p := by
    rintro ⟨key, value⟩ member
    have own : key = uri := by simpa using (List.mem_filter.mp member).2
    rw [own]
  rw [filter_flatten, of_foldl_add, List.map_append, List.filter_append, filter_flatten,
    List.map_map]
  exact congrArg _ ((List.map_congr_left same).trans (List.map_id _))

theorem filter_flatten_ofList (pairs : List (Uri × α)) (uri : Uri) :
    (ofList pairs).flatten.filter (·.1 = uri) = pairs.filter (·.1 = uri) :=
  filter_flatten_foldl_add ∅ pairs uri

theorem flatten_foldl_add_perm [DecidableEq α] (groups : Groups α) (pairs : List (Uri × α)) :
    (flatten (pairs.foldl (fun groups p => groups.add p.1 p.2) groups)).Perm
      (groups.flatten ++ pairs) := by
  rw [List.perm_iff_count]
  rintro ⟨uri, value⟩
  have own (list : List (Uri × α)) :
      (list.filter (·.1 = uri)).count (uri, value) = list.count (uri, value) :=
    List.count_filter (by simp)
  rw [← own, filter_flatten_foldl_add, own]

theorem flatten_ofList_perm [DecidableEq α] (pairs : List (Uri × α)) :
    (ofList pairs).flatten.Perm pairs :=
  flatten_foldl_add_perm ∅ pairs

theorem mem_foldl_add (groups : Groups α) (pairs : List (Uri × α)) (uri : Uri) :
    uri ∈ pairs.foldl (fun groups p => groups.add p.1 p.2) groups ↔
      uri ∈ groups ∨ ∃ p ∈ pairs, p.1 = uri := by
  induction pairs generalizing groups with
  | nil => simp
  | cons p pairs ih =>
    have here : uri ∈ groups.add p.1 p.2 ↔ uri ∈ groups ∨ p.1 = uri := by
      rw [← Std.ExtTreeMap.isSome_getElem?_iff_mem, getElem?_add,
        ← Std.ExtTreeMap.isSome_getElem?_iff_mem]
      by_cases same : p.1 = uri <;> simp [same]
    rw [List.foldl_cons, ih, here]
    simp only [List.mem_cons, exists_eq_or_imp, or_assoc]

end Groups

end LintServer
