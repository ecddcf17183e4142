import RoleAccess.Proofs.CanonicalText
set_option autoImplicit false

/-! # Values that are written alike

A JSON value is built from nothing, truth values, integers, texts, lists, tuples and objects
that have no name twice. Two of them are alike (`Value.Alike`) if they are equal but for the
order of fields and for what is a list and what a tuple, at any depth. These are exactly the
values with the same normal form, so exactly those with the same canonical text.
-/

namespace RoleAccess

namespace Value

/-- Built without byte strings and floating-point numbers, and no object has a name twice. -/
inductive IsJson : Value → Prop
  | null : IsJson .null
  | bool (b : Bool) : IsJson (.bool b)
  | int (n : Int) : IsJson (.int n)
  | str (s : Text) : IsJson (.str s)
  | list (items : List Value) (json : ∀ item ∈ items, IsJson item) : IsJson (.list items)
  | tuple (items : List Value) (json : ∀ item ∈ items, IsJson item) : IsJson (.tuple items)
  | obj (fields : List (Text × Value)) (distinct : (Table.keys fields).Nodup)
      (json : ∀ field ∈ fields, IsJson field.2) : IsJson (.obj fields)

/-- Equal but for the order of fields and for what is a list and what a tuple, at any depth. -/
inductive Alike : Value → Value → Prop
  | null : Alike .null .null
  | bool (b : Bool) : Alike (.bool b) (.bool b)
  | int (n : Int) : Alike (.int n) (.int n)
  | str (s : Text) : Alike (.str s) (.str s)
  /-- The values are lists or tuples of alike items. -/
  | items (value other : Value) (items others : List Value) (found : value.items? = some items)
      (found' : other.items? = some others) (length : items.length = others.length)
      (alike : ∀ i (h : i < items.length) (h' : i < others.length), Alike items[i] others[i]) :
      Alike value other
  /-- The values are objects with the same names, and under each name they have alike values. -/
  | obj (fields others : List (Text × Value))
      (names : ∀ name, name ∈ Table.keys fields ↔ name ∈ Table.keys others)
      (alike : ∀ name a b, Table.find? name fields = some a → Table.find? name others = some b →
        Alike a b) :
      Alike (.obj fields) (.obj others)

/-! ## Parts of JSON values -/

namespace IsJson

theorem isPlain {value : Value} (json : value.IsJson) : value.IsPlain := by
  induction json with
  | null => exact .null
  | bool b => exact .bool b
  | int n => exact .int n
  | str s => exact .str s
  | list items _ ih => exact .list items ih
  | tuple items _ ih => exact .tuple items ih
  | obj fields _ _ ih => exact .obj fields ih

theorem items {value : Value} (json : value.IsJson) (items : List Value)
    (found : value.items? = some items) : ∀ item ∈ items, item.IsJson := by
  cases json with
  | list others json | tuple others json =>
      cases found
      exact json
  | _ => cases found

theorem field {fields : List (Text × Value)} (json : (Value.obj fields).IsJson) (name : Text)
    (value : Value) (found : Table.find? name fields = some value) : value.IsJson := by
  cases json with
  | obj _ _ json => exact json _ (Table.mem_of_find? fields name value found)

theorem distinct {fields : List (Text × Value)} (json : (Value.obj fields).IsJson) :
    (Table.keys fields).Nodup := by
  cases json with
  | obj _ distinct _ => exact distinct

end IsJson

/-! ## Parts of normal forms -/

theorem normal_of_items? {value : Value} {items : List Value}
    (found : value.items? = some items) : value.normal = .list (items.map normal) := by
  cases value with
  | list others | tuple others =>
      cases found
      exact normal_list items
  | _ => cases found

/-- Nothing but a list or a tuple has the normal form of one. -/
theorem exists_items_of_normal {value : Value} {items : List Value}
    (same : value.normal = .list items) : ∃ others, value.items? = some others := by
  cases value with
  | list others | tuple others => exact ⟨others, rfl⟩
  | _ => cases same

/-- Sequences have the same normal form if they are equally long and their items have the same
normal forms. -/
theorem normal_items_eq_iff {value other : Value} {items others : List Value}
    (found : value.items? = some items) (found' : other.items? = some others) :
    value.normal = other.normal ↔ items.length = others.length ∧
      ∀ i (h : i < items.length) (h' : i < others.length), items[i].normal = others[i].normal := by
  rw [normal_of_items? found, normal_of_items? found', list.injEq, List.ext_getElem_iff]
  simp only [List.length_map, List.getElem_map]

/-- Objects without repeated names have the same normal form if they have the same names and
under each name values with the same normal form. -/
theorem normal_obj_eq_iff (fields others : List (Text × Value))
    (distinct : (Table.keys fields).Nodup) (distinct' : (Table.keys others).Nodup) :
    (obj fields).normal = (obj others).normal ↔
      ∀ name, (Table.find? name fields).map normal = (Table.find? name others).map normal := by
  have keys (members : List (Text × Value)) :
      Table.keys (Table.mapValues normal members) = Table.keys members := by
    rw [Table.keys, Table.mapValues, List.map_map]
    rfl
  rw [normal_obj, normal_obj]
  constructor
  · intro same name
    have found := congrArg (Table.find? name) (obj.inj same)
    rwa [Table.find?_mapValues, Table.find?_mapValues, Canonical.find?_sortMembers,
      Canonical.find?_sortMembers] at found
  · intro same
    have sorted := Canonical.sortMembers_congr (Table.mapValues normal fields)
      (Table.mapValues normal others) (by rwa [keys]) (by rwa [keys]) (by
        intro name
        rw [Table.find?_mapValues, Table.find?_mapValues, same])
    rw [Canonical.mapValues_sortMembers, Canonical.mapValues_sortMembers, sorted]

/-! ## Alike values have the same normal form -/

/-- Alike values are of one kind, so a truth value is not alike a number, nor a text what it
spells, nor an object a list. -/
theorem Alike.opening_eq {value other : Value} (alike : value.Alike other) :
    Canonical.Opening.ofValue value = Canonical.Opening.ofValue other := by
  have sequence {v : Value} {items : List Value} (found : v.items? = some items) :
      Canonical.Opening.ofValue v = .items := by
    cases v with
    | list _ | tuple _ => rfl
    | _ => cases found
  cases alike with
  | null | bool b | int n | str s | obj fields others _ _ => rfl
  | items _ _ items others found found' _ _ => rw [sequence found, sequence found']

theorem Alike.normal_eq {value other : Value} (alike : value.Alike other) (json : value.IsJson)
    (json' : other.IsJson) : value.normal = other.normal := by
  induction alike with
  | null | bool b | int n | str s => rfl
  | items value other items others found found' length _ ih =>
      refine (normal_items_eq_iff found found').mpr ⟨length, fun i h h' => ?_⟩
      exact ih i h h' (json.items items found _ (List.getElem_mem h))
        (json'.items others found' _ (List.getElem_mem h'))
  | obj fields others names _ ih =>
      refine (normal_obj_eq_iff fields others json.distinct json'.distinct).mpr fun name => ?_
      have known := names name
      rw [← Table.isSome_find?_iff, ← Table.isSome_find?_iff] at known
      cases found : Table.find? name fields with
      | none =>
          cases found' : Table.find? name others with
          | none => rfl
          | some b => simp [found, found'] at known
      | some a =>
          cases found' : Table.find? name others with
          | none => simp [found, found'] at known
          | some b =>
              have same := ih name a b found found' (json.field name a found)
                (json'.field name b found')
              rw [Option.map_some, Option.map_some, same]

/-- JSON values with the same normal form are alike. -/
theorem IsJson.alike {value other : Value} (json : value.IsJson) (json' : other.IsJson)
    (same : value.normal = other.normal) : value.Alike other := by
  induction json generalizing other with
  | null =>
      cases json' with
      | null => exact .null
      | _ => cases same
  | bool b =>
      cases json' with
      | bool b' =>
          cases same
          exact .bool b
      | _ => cases same
  | int n =>
      cases json' with
      | int n' =>
          cases same
          exact .int n
      | _ => cases same
  | str s =>
      cases json' with
      | str s' =>
          cases same
          exact .str s
      | _ => cases same
  | list items _ ih | tuple items _ ih =>
      obtain ⟨others, found'⟩ := exists_items_of_normal (same.symm.trans (normal_of_items? rfl))
      obtain ⟨length, views⟩ := (normal_items_eq_iff rfl found').mp same
      refine .items _ other items others rfl found' length fun i h h' => ?_
      exact ih items[i] (List.getElem_mem h) (json'.items others found' _ (List.getElem_mem h'))
        (views i h h')
  | obj fields distinct _ ih =>
      cases json' with
      | obj others distinct' json' =>
          have found := (normal_obj_eq_iff fields others distinct distinct').mp same
          have names (name : Text) : name ∈ Table.keys fields ↔ name ∈ Table.keys others := by
            rw [← Table.isSome_find?_iff, ← Table.isSome_find?_iff, ← Option.isSome_map,
              found name, Option.isSome_map]
          refine .obj fields others names fun name a b ha hb => ?_
          have normal := found name
          rw [ha, hb, Option.map_some, Option.map_some] at normal
          exact ih (name, a) (Table.mem_of_find? fields name a ha)
            (json' (name, b) (Table.mem_of_find? others name b hb)) (Option.some.inj normal)
      | _ => cases same

end Value

namespace Canonical

/-! ## Values with the same text -/

/-- **Canonical texts are canonical and tell values apart.** Any two JSON values have a text
each, and it is the same text exactly if the values are alike. -/
theorem texts_eq_iff_alike (value other : Value) (json : value.IsJson) (json' : other.IsJson) :
    ∃ written written', text value = .ok written ∧ text other = .ok written' ∧
      (written = written' ↔ value.Alike other) := by
  have first := text_of_isPlain value json.isPlain
  have second := text_of_isPlain other json'.isPlain
  refine ⟨_, _, first, second, ?_⟩
  have told := text_eq_iff value other json.isPlain json'.isPlain
  rw [first, second, Except.ok.injEq] at told
  rw [told]
  constructor
  · intro same
    exact json.alike json' same
  · intro alike
    exact alike.normal_eq json json'

/-- Fields in another order and a tuple in place of a list are written alike, at two depths;
a truth value is not written like a number, nor a text like what it spells, nor an empty object
like an empty list. -/
theorem texts_eq_iff_alike_reordered :
    let inner : Value := .obj [("y", .bool true), ("x", .str ",")]
    let inner' : Value := .obj [("x", .str ","), ("y", .bool true)]
    let value : Value := .obj [("b", .tuple [.int 1, .null]), ("a", inner)]
    let other : Value := .obj [("a", inner'), ("b", .list [.int 1, .null])]
    value.IsJson ∧ other.IsJson ∧ text value = text other ∧
      text (.bool true) ≠ text (.int 1) ∧ text .null ≠ text (.str "null") ∧
      text (.str "1") ≠ text (.int 1) ∧ text (.obj []) ≠ text (.list []) := by
  intro inner inner' value other
  have told (v v' : Value) (json : v.IsJson) (json' : v'.IsJson) :
      text v = text v' ↔ v.Alike v' := by
    obtain ⟨written, written', first, second, same⟩ := texts_eq_iff_alike v v' json json'
    rw [first, second, Except.ok.injEq, same]
  have items : ∀ item ∈ [Value.int 1, .null], item.IsJson :=
    List.forall_mem_cons.mpr ⟨.int 1, List.forall_mem_singleton.mpr .null⟩
  have innerJson : inner.IsJson := .obj _ (by decide)
    (List.forall_mem_cons.mpr ⟨.bool true, List.forall_mem_singleton.mpr (.str ",")⟩)
  have innerJson' : inner'.IsJson := .obj _ (by decide)
    (List.forall_mem_cons.mpr ⟨.str ",", List.forall_mem_singleton.mpr (.bool true)⟩)
  have json : value.IsJson := .obj _ (by decide)
    (List.forall_mem_cons.mpr ⟨.tuple _ items, List.forall_mem_singleton.mpr innerJson⟩)
  have json' : other.IsJson := .obj _ (by decide)
    (List.forall_mem_cons.mpr ⟨innerJson', List.forall_mem_singleton.mpr (.list _ items)⟩)
  have innerAlike : inner.Alike inner' := by
    refine .obj _ _ (fun name => ?_) (fun name a b ha hb => ?_)
    · simp [Table.keys, or_comm]
    · have mem := Table.mem_of_find? _ _ _ ha
      simp only [List.mem_cons, List.not_mem_nil, or_false, Prod.mk.injEq] at mem
      rcases mem with ⟨rfl, rfl⟩ | ⟨rfl, rfl⟩
      · cases hb
        exact .bool true
      · cases hb
        exact .str ","
  have alike : value.Alike other := by
    refine .obj _ _ (fun name => ?_) (fun name a b ha hb => ?_)
    · simp [Table.keys, or_comm]
    · have mem := Table.mem_of_find? _ _ _ ha
      simp only [List.mem_cons, List.not_mem_nil, or_false, Prod.mk.injEq] at mem
      rcases mem with ⟨rfl, rfl⟩ | ⟨rfl, rfl⟩
      · cases hb
        refine .items _ _ _ _ rfl rfl rfl fun i h h' => ?_
        have item := items _ (List.getElem_mem h)
        exact item.alike item rfl
      · cases hb
        exact innerAlike
  refine ⟨json, json', (told value other json json').mpr alike, ?_, ?_, ?_, ?_⟩
  · intro same
    exact absurd ((told _ _ (.bool true) (.int 1)).mp same).opening_eq (by decide)
  · intro same
    exact absurd ((told _ _ .null (.str "null")).mp same).opening_eq (by decide)
  · intro same
    exact absurd ((told _ _ (.str "1") (.int 1)).mp same).opening_eq (by decide)
  · intro same
    have noFields : (Value.obj []).IsJson := .obj [] List.nodup_nil (List.forall_mem_nil _)
    have noItems : (Value.list []).IsJson := .list [] (List.forall_mem_nil _)
    exact absurd ((told _ _ noFields noItems).mp same).opening_eq (by decide)

end Canonical

end RoleAccess
