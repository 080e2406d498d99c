import LoadedImage.Header.Basic

/-!
# Glue

An image is entered through four pieces of glue code, one for each way the runtime
calls into it. The header stores their distances; a table holds their addresses once
the image has one.
-/

namespace LoadedImage

/-- The ways the runtime calls into an image. -/
inductive Glue where
  | activate
  | mainExitTask
  | unwind
  | yield
deriving DecidableEq

namespace Glue

/-- All glue in the order of its fields in the header. -/
def all : List Glue := [activate, mainExitTask, unwind, yield]

/-- The index of the glue, by which it is stored in a table. -/
def index : Glue → Nat
  | activate => 0
  | mainExitTask => 1
  | unwind => 2
  | yield => 3

/-- The name of the glue, as it stands in messages. -/
def name : Glue → String
  | activate => "activate"
  | mainExitTask => "main_exit_task"
  | unwind => "unwind"
  | yield => "yield"

/-- The glue with the given name. -/
def ofName? (name : String) : Option Glue :=
  all.find? fun g => g.name = name

/-- The header field that holds the distance of the glue. -/
def field : Glue → Header.Field
  | activate => .activate
  | mainExitTask => .mainExitTask
  | unwind => .unwind
  | yield => .yield

/-- The distance of the glue from the header. -/
def distance (g : Glue) (h : Header) : Int64 :=
  (h.word g.field).toInt64

theorem mem_all (g : Glue) : g ∈ all := by
  cases g <;> decide

theorem all_index (g : Glue) : all[g.index]? = some g := by
  cases g <;> rfl

theorem index_lt (g : Glue) : g.index < all.length := by
  cases g <;> decide

/-- The glue is listed by its index. -/
theorem getElem?_all_eq_some_iff {g : Glue} {k : Nat} : all[k]? = some g ↔ k = g.index := by
  have hindex : ∀ k : Fin all.length, all[k].index = k := by decide
  constructor
  · intro h
    obtain ⟨hk, rfl⟩ := List.getElem?_eq_some_iff.1 h
    exact (hindex ⟨k, hk⟩).symm
  · rintro rfl
    exact g.all_index

/-- A piece of glue at its address. -/
structure Entry where
  glue : Glue
  address : Address
deriving DecidableEq

/-- The address to call in order to activate the image: only activation glue has one,
and only if it is not null. -/
def Entry.activation? (e : Entry) : Option Address :=
  if e.glue = .activate ∧ e.address ≠ .null then some e.address else none

/-- One entry for each piece of glue, picked by the index of the glue. -/
@[ext]
structure Table where
  entries : List Entry
  length_entries : entries.length = all.length
deriving DecidableEq

namespace Table

/-- The entry at the index of the glue. -/
def get (t : Table) (g : Glue) : Entry :=
  have hg : g.index < t.entries.length := t.length_entries ▸ g.index_lt
  t.entries[g.index]

/-- The table whose entries are given by a function, in the order of the glue. -/
def ofFn (entry : Glue → Entry) : Table :=
  ⟨all.map entry, List.length_map entry⟩

/-- The entries in their order. -/
def toList (t : Table) : List Entry :=
  t.entries

theorem getElem?_toList_index (t : Table) (g : Glue) : t.toList[g.index]? = some (t.get g) :=
  List.getElem?_eq_getElem _

/-- Every entry of a table is that of some glue, for there are as many of them. -/
theorem toList_eq_map_get (t : Table) : t.toList = all.map t.get := by
  refine List.ext_getElem? fun k => ?_
  rw [List.getElem?_map]
  cases hk : all[k]? with
  | none =>
    rw [List.getElem?_eq_none_iff, ← t.length_entries] at hk
    exact List.getElem?_eq_none hk
  | some g =>
    obtain rfl := getElem?_all_eq_some_iff.1 hk
    exact t.getElem?_toList_index g

@[simp]
theorem get_ofFn (entry : Glue → Entry) (g : Glue) : (ofFn entry).get g = entry g := by
  have hget := (ofFn entry).getElem?_toList_index g
  rw [toList, ofFn, List.getElem?_map, all_index] at hget
  exact (Option.some.inj hget).symm

end Table

end Glue

end LoadedImage
