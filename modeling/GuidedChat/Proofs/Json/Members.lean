import GuidedChat.Json.Record
import GuidedChat.Json.Strict
import Mathlib.Data.List.Forall2

/-! # What the members of an object say

Documents are read in two ways. Where an object is taken as a value, the last member of a name
counts (`member?_eq_some_iff`). Where a record is read, an object may have each of its fields
once at most, and an array may stand for it that has the fields by their places. What a record
holds in its fields is told by the tree alone (`Holds`), and reading finds just that
(`exists_fields?_iff`). -/

namespace GuidedChat.Json

/-! ## The last member of a name -/

/-- The last of the members with this name has this value. -/
def Last (name : String) (value : Json) (members : List (Option String × Json)) : Prop :=
  ∃ before after, members = before ++ (some name, value) :: after ∧
    ∀ member ∈ after, member.1 ≠ some name

def Lacks (name : String) (members : List (Option String × Json)) : Prop :=
  ∀ member ∈ members, member.1 ≠ some name

theorem member?_eq_some_iff {name : String} {members : List (Option String × Json)}
    {value : Json} : (object members).member? name = some value ↔ Last name value members := by
  rw [member?, Option.map_eq_some_iff]
  constructor
  · rintro ⟨⟨key, found⟩, hfind, rfl⟩
    obtain ⟨hkey, after, before, hsplit, hafter⟩ := List.find?_eq_some_iff_append.mp hfind
    have hkey : key = some name := by simpa using hkey
    refine ⟨before.reverse, after.reverse, ?_, ?_⟩
    · rw [← List.reverse_reverse members, hsplit, hkey]
      simp
    · intro member hmem
      simpa using hafter member (List.mem_reverse.mp hmem)
  · rintro ⟨before, after, rfl, hafter⟩
    refine ⟨(some name, value), ?_, rfl⟩
    rw [List.find?_eq_some_iff_append]
    refine ⟨by simp, after.reverse, before.reverse, by simp, ?_⟩
    intro member hmem
    simpa using hafter member (List.mem_reverse.mp hmem)

theorem member?_eq_none_iff {name : String} {members : List (Option String × Json)} :
    (object members).member? name = none ↔ Lacks name members := by
  simp [member?, Lacks]

/-! ## The fields of a record -/

def Named (members : List (Option String × Json)) : Prop := ∀ member ∈ members, member.1 ≠ none

/-- One member has this name, and its value is this one. -/
def Sole (name : String) (value : Json) (members : List (Option String × Json)) : Prop :=
  ∃ before after, members = before ++ (some name, value) :: after ∧ Lacks name before ∧
    Lacks name after

/-- The name stands in an object once at most, and then for this value. -/
inductive Held (name : String) (members : List (Option String × Json)) : Option Json → Prop
  | sole {value : Json} : Sole name value members → Held name members (some value)
  | lacks : Lacks name members → Held name members none

/-- What a record holds in its fields: in an object under their names, and in an array at their
places, where the last ones may be missing. -/
inductive Holds (names : List String) : Json → List (Option Json) → Prop
  | object {members : List (Option String × Json)} {held : List (Option Json)} :
      Named members → List.Forall₂ (fun name found => Held name members found) names held →
        Holds names (.object members) held
  | array {items : List Json} {missing : Nat} : items.length + missing = names.length →
      Holds names (.array items) (items.map some ++ List.replicate missing none)

theorem held_nil {name : String} {found : Option Json} : Held name [] found ↔ found = none := by
  constructor
  · rintro (⟨before, after, h, -⟩ | h)
    · simp at h
    · rfl
  · rintro rfl
    exact .lacks (by simp [Lacks])

theorem held_cons_self {name : String} {value : Json} {rest : List (Option String × Json)}
    {found : Option Json} :
    Held name ((some name, value) :: rest) found ↔ found = some value ∧ Lacks name rest := by
  constructor
  · rintro (⟨before, after, h, hbefore, hafter⟩ | h)
    · cases before with
      | nil =>
        obtain ⟨hmember, rfl⟩ := List.cons.inj h
        cases hmember
        exact ⟨rfl, hafter⟩
      | cons member before =>
        obtain ⟨rfl, -⟩ := List.cons.inj h
        exact absurd rfl (hbefore _ List.mem_cons_self)
    · exact absurd rfl (h _ List.mem_cons_self)
  · rintro ⟨rfl, hrest⟩
    exact .sole ⟨[], rest, rfl, by simp [Lacks], hrest⟩

theorem held_cons_ne {name : String} {member : Option String × Json}
    (h : member.1 ≠ some name) {rest : List (Option String × Json)} {found : Option Json} :
    Held name (member :: rest) found ↔ Held name rest found := by
  constructor
  · rintro (⟨before, after, hsplit, hbefore, hafter⟩ | hlacks)
    · cases before with
      | nil =>
        obtain ⟨rfl, -⟩ := List.cons.inj hsplit
        exact absurd rfl h
      | cons first before =>
        obtain ⟨-, rfl⟩ := List.cons.inj hsplit
        exact .sole ⟨before, after, rfl, fun m hm => hbefore m (List.mem_cons_of_mem _ hm), hafter⟩
    · exact .lacks fun m hm => hlacks m (List.mem_cons_of_mem _ hm)
  · rintro (⟨before, after, rfl, hbefore, hafter⟩ | hlacks)
    · exact .sole ⟨member :: before, after, rfl, List.forall_mem_cons.mpr ⟨h, hbefore⟩, hafter⟩
    · exact .lacks (List.forall_mem_cons.mpr ⟨h, hlacks⟩)

/-- A name that comes first comes no more, and the others stand in the rest once at most. -/
theorem forall_held_cons_iff {names : List String} {key : String} {value : Json}
    {rest : List (Option String × Json)} :
    (∀ name ∈ names, ∃ found, Held name ((some key, value) :: rest) found) ↔
      (key ∈ names → Lacks key rest) ∧ ∀ name ∈ names, ∃ found, Held name rest found := by
  constructor
  · intro h
    have hlacks : key ∈ names → Lacks key rest := by
      intro hkey
      obtain ⟨found, hfound⟩ := h key hkey
      exact (held_cons_self.mp hfound).2
    refine ⟨hlacks, fun name hname => ?_⟩
    by_cases heq : key = name
    · exact ⟨none, .lacks (heq ▸ hlacks (heq ▸ hname))⟩
    · obtain ⟨found, hfound⟩ := h name hname
      exact ⟨found, (held_cons_ne (by simpa using heq)).mp hfound⟩
  · rintro ⟨hlacks, hrest⟩ name hname
    by_cases heq : key = name
    · subst heq
      exact ⟨_, held_cons_self.mpr ⟨rfl, hlacks hname⟩⟩
    · obtain ⟨found, hfound⟩ := hrest name hname
      exact ⟨found, (held_cons_ne (by simpa using heq)).mpr hfound⟩

/-! ## Reading the fields -/

theorem mapM_eq_some_iff {α β : Type} {f : α → Option β} {values : List α} {results : List β} :
    values.mapM f = some results ↔
      List.Forall₂ (fun value result => f value = some result) values results := by
  induction values generalizing results with
  | nil => cases results <;> simp
  | cons value values ih =>
    rw [List.mapM_cons]
    cases results with
    | nil => cases f value <;> cases values.mapM f <;> simp
    | cons result results =>
      rw [List.forall₂_cons, ← ih]
      cases f value <;> cases values.mapM f <;> simp

def membersOf (named : List (String × Json)) : List (Option String × Json) :=
  named.map fun (name, value) => (some name, value)

theorem membersOf_cons (name : String) (value : Json) (named : List (String × Json)) :
    membersOf ((name, value) :: named) = (some name, value) :: membersOf named := rfl

theorem mapM_name_eq_some_iff {members : List (Option String × Json)}
    {named : List (String × Json)} :
    members.mapM (fun (key, value) => key.map (·, value)) = some named ↔
      members = membersOf named := by
  have hname : ∀ (member : Option String × Json) (field : String × Json),
      member.1.map (·, member.2) = some field ↔ member = (some field.1, field.2) := by
    rintro ⟨_ | key, value⟩ ⟨name, value'⟩ <;> simp
  rw [mapM_eq_some_iff, membersOf, ← List.forall₂_eq_eq_eq, List.forall₂_map_right_iff]
  simp only [hname]

theorem named_iff {members : List (Option String × Json)} :
    Named members ↔ ∃ named, members = membersOf named := by
  constructor
  · intro h
    induction members with
    | nil => exact ⟨[], rfl⟩
    | cons member rest ih =>
      obtain ⟨hmember, hrest⟩ := List.forall_mem_cons.mp h
      obtain ⟨named, rfl⟩ := ih hrest
      obtain ⟨_ | name, value⟩ := member
      · exact absurd rfl hmember
      · exact ⟨(name, value) :: named, rfl⟩
  · rintro ⟨named, rfl⟩ member hmem
    obtain ⟨field, -, rfl⟩ := List.mem_map.mp hmem
    exact Option.some_ne_none _

section Object

variable {names : List String} {named : List (String × Json)} {name : String}

theorem lacks_membersOf_iff : Lacks name (membersOf named) ↔ name ∉ named.map (·.1) := by
  rw [Lacks, membersOf, List.forall_mem_map]
  simp only [ne_eq, Option.some.injEq, List.mem_map, not_exists, not_and]

/-- Of the names asked for each stands once at most if the fields have no name twice. -/
theorem nodup_fields_iff :
    ((named.filter (names.contains ·.1)).map (·.1)).Nodup ↔
      ∀ name ∈ names, ∃ found, Held name (membersOf named) found := by
  induction named with
  | nil => simp [membersOf, held_nil]
  | cons first rest ih =>
    obtain ⟨key, value⟩ := first
    rw [membersOf_cons, forall_held_cons_iff, ← ih]
    by_cases hkey : key ∈ names
    · have hlacks : key ∉ (rest.filter (names.contains ·.1)).map (·.1) ↔
          Lacks key (membersOf rest) := by
        rw [lacks_membersOf_iff]
        simp [hkey]
      rw [List.filter_cons_of_pos (by simpa using hkey), List.map_cons, List.nodup_cons, hlacks]
      simp [hkey]
    · rw [List.filter_cons_of_neg (by simpa using hkey)]
      simp [hkey]

/-- What is looked up among the fields of an object is what it holds. -/
theorem Held.lookup_eq {found : Option Json} (h : Held name (membersOf named) found)
    (hname : name ∈ names) : (named.filter (names.contains ·.1)).lookup name = found := by
  induction named with
  | nil => exact (held_nil.mp h).symm
  | cons first rest ih =>
    obtain ⟨key, value⟩ := first
    rw [membersOf_cons] at h
    by_cases heq : key = name
    · subst heq
      rw [List.filter_cons_of_pos (by simpa using hname), List.lookup_cons_self,
        (held_cons_self.mp h).1]
    · have hrest := ih ((held_cons_ne (by simpa using heq)).mp h)
      have hskip : (name == key) = false := by simpa using Ne.symm heq
      by_cases hkey : key ∈ names
      · rw [List.filter_cons_of_pos (by simpa using hkey), List.lookup_cons, hskip]
        exact hrest
      · rw [List.filter_cons_of_neg (by simpa using hkey)]
        exact hrest

theorem fields?_object_eq_some_iff {members : List (Option String × Json)}
    {fields : List (String × Json)} :
    (object members).fields? names = some fields ↔
      ∃ named, members = membersOf named ∧
        (∀ name ∈ names, ∃ found, Held name (membersOf named) found) ∧
        named.filter (names.contains ·.1) = fields := by
  rw [fields?]
  simp only [bind, Option.bind_eq_some_iff, mapM_name_eq_some_iff, Option.ite_none_right_eq_some,
    nodup_fields_iff, Option.some.injEq]

end Object

/-- What is looked up among the fields of an array stands at their places. -/
theorem map_lookup_zip {names : List String} (hnodup : names.Nodup) {items : List Json}
    {missing : Nat} (h : items.length + missing = names.length) :
    names.map (List.lookup · (names.zip items)) =
      items.map some ++ List.replicate missing none := by
  induction names generalizing items with
  | nil =>
    obtain ⟨hitems, rfl⟩ := Nat.add_eq_zero_iff.mp h
    rw [List.length_eq_zero_iff.mp hitems]
    rfl
  | cons first names ih =>
    obtain ⟨hfirst, hnames⟩ := List.nodup_cons.mp hnodup
    cases items with
    | nil =>
      rw [List.length_nil, Nat.zero_add] at h
      rw [h, List.map_nil, List.nil_append, ← List.map_const']
      rfl
    | cons item items =>
      have hrest : items.length + missing = names.length := by
        simp only [List.length_cons] at h
        omega
      rw [List.zip_cons_cons, List.map_cons, List.lookup_cons_self, List.map_cons,
        List.cons_append, ← ih hnames hrest]
      refine congrArg (some item :: ·) (List.map_congr_left fun name hname => ?_)
      have hne : (name == first) = false := by
        simp only [beq_eq_false_iff_ne]
        rintro rfl
        exact hfirst hname
      rw [List.lookup_cons, hne]

/-- The fields that can be read of a value are those that it holds. -/
theorem exists_fields?_iff {names : List String} (hnodup : names.Nodup) {value : Json}
    {held : List (Option Json)} :
    (∃ fields, value.fields? names = some fields ∧ names.map (List.lookup · fields) = held) ↔
      Holds names value held := by
  constructor
  · rintro ⟨fields, h, rfl⟩
    cases value with
    | object members =>
      obtain ⟨named, rfl, hfields, rfl⟩ := fields?_object_eq_some_iff.mp h
      refine .object (named_iff.mpr ⟨named, rfl⟩) ?_
      rw [List.forall₂_map_right_iff, List.forall₂_same]
      intro name hname
      obtain ⟨found, hfound⟩ := hfields name hname
      rw [hfound.lookup_eq hname]
      exact hfound
    | array items =>
      obtain ⟨hlength, hfields⟩ := Option.ite_none_right_eq_some.mp h
      cases hfields
      have hmissing : items.length + (names.length - items.length) = names.length := by omega
      rw [map_lookup_zip hnodup hmissing]
      exact .array hmissing
    | null | bool b | number n | string text => cases h
  · intro hholds
    cases hholds with
    | object hnamed hheld =>
      obtain ⟨named, rfl⟩ := named_iff.mp hnamed
      have hfound : ∀ name ∈ names, ∃ found, Held name (membersOf named) found :=
        ((List.forall₂_and_left _ _).mp (hheld.imp fun name found h => ⟨⟨found, h⟩, h⟩)).1
      refine ⟨_, fields?_object_eq_some_iff.mpr ⟨named, rfl, hfound, rfl⟩, ?_⟩
      rw [← List.forall₂_eq_eq_eq, List.forall₂_map_left_iff]
      refine ((List.forall₂_and_left _ _).mpr ⟨fun name hname => hname, hheld⟩).imp ?_
      rintro name found ⟨hname, h⟩
      exact h.lookup_eq hname
    | array hmissing => exact ⟨_, if_pos (by omega), map_lookup_zip hnodup hmissing⟩

end GuidedChat.Json
