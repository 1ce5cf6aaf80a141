import Mathlib.Data.Finmap
import OpenAddressing.Proofs.Foreign

/-!
# Catalogs

A catalog is what a table looks like from outside: a finite map from classes of
equal items to one stored copy each.  A list of copies enumerates a catalog if
it has every entry once, in whatever order.
-/

namespace OpenAddressing
namespace Laws

variable {ι α : Type} (laws : Laws ι)

/-- The class of the items that equal an item. -/
def kind (item : ι) : Quotient laws.setoid :=
  Quotient.mk laws.setoid item

variable {laws}

theorem kind_eq_iff {first second : ι} :
    laws.kind first = laws.kind second ↔ laws.equal first second = true :=
  Quotient.eq

instance : DecidableEq (Quotient laws.setoid) := fun first second =>
  Quotient.recOnSubsingleton₂ first second fun first second =>
    decidable_of_iff (laws.equal first second = true) (@kind_eq_iff ι laws first second).symm

variable (laws) (α) in
/-- A finite map from classes of items to stored copies. -/
abbrev Catalog : Type :=
  Finmap fun _ : Quotient laws.setoid => α

namespace Catalog

variable {catalog : laws.Catalog α} {key : α → ι} {copies other : List α} {copy : α}
variable {item : ι}

theorem lookup_eq_some_iff {kind : Quotient laws.setoid} :
    catalog.lookup kind = some copy ↔ ⟨kind, copy⟩ ∈ catalog.entries := by
  refine Finmap.induction_on catalog fun entries => ?_
  rw [Finmap.lookup_toFinmap, AList.toFinmap_entries, Multiset.mem_coe]
  exact List.mem_dlookup_iff entries.nodupKeys

/-- The entry of a stored copy. -/
def entry (laws : Laws ι) (key : α → ι) (copy : α) :
    Sigma fun _ : Quotient laws.setoid => α :=
  ⟨laws.kind (key copy), copy⟩

/-- A list has every entry of the catalog once. -/
def Enumerates (key : α → ι) (copies : List α) (catalog : laws.Catalog α) : Prop :=
  catalog.entries = Multiset.ofList (copies.map (entry laws key))

theorem enumerates_empty : Enumerates key [] (∅ : laws.Catalog α) :=
  rfl

/-- Copies of which no two are equal enumerate a catalog. -/
theorem exists_enumerates
    (unequal : copies.Pairwise fun first second =>
      laws.equal (key first) (key second) = false) :
    ∃ catalog : laws.Catalog α, Enumerates key copies catalog := by
  have nodup : (copies.map (entry laws key)).NodupKeys := by
    unfold List.NodupKeys List.keys
    rw [List.map_map, List.nodup_iff_pairwise_ne, List.pairwise_map]
    refine unequal.imp fun different same => ?_
    rw [kind_eq_iff.mp same] at different
    cases different
  exact ⟨⟨Multiset.ofList (copies.map (entry laws key)), Multiset.coe_nodupKeys.mpr nodup⟩, rfl⟩

namespace Enumerates

/-- The order of an enumeration does not matter. -/
theorem perm
    (enumerates : Enumerates key copies catalog)
    (perm : other.Perm copies) :
    Enumerates key other catalog :=
  Eq.trans enumerates (Multiset.coe_eq_coe.mpr (perm.symm.map _))

/-- What is stored for an item is the copy that equals it. -/
theorem lookup_iff (enumerates : Enumerates key copies catalog) :
    catalog.lookup (laws.kind item) = some copy ↔
      copy ∈ copies ∧ laws.equal (key copy) item = true := by
  rw [lookup_eq_some_iff, enumerates, Multiset.mem_coe, List.mem_map]
  constructor
  · rintro ⟨stored, member, same⟩
    obtain ⟨sameKind, sameCopy⟩ := Sigma.mk.inj same
    obtain rfl := eq_of_heq sameCopy
    exact ⟨member, kind_eq_iff.mp sameKind⟩
  · rintro ⟨member, equal⟩
    exact ⟨copy, member, by rw [entry, kind_eq_iff.mpr equal]⟩

/-- Nothing is stored for an item if no copy equals it. -/
theorem lookup_eq_none_iff (enumerates : Enumerates key copies catalog) :
    catalog.lookup (laws.kind item) = none ↔
      ∀ copy ∈ copies, laws.equal (key copy) item = false := by
  rw [Option.eq_none_iff_forall_ne_some]
  constructor
  · intro absent copy member
    by_contra equal
    exact absent copy (enumerates.lookup_iff.mpr ⟨member, by simpa using equal⟩)
  · intro different copy stored
    obtain ⟨member, equal⟩ := enumerates.lookup_iff.mp stored
    rw [different copy member] at equal
    cases equal

theorem card (enumerates : Enumerates key copies catalog) :
    catalog.keys.card = copies.length := by
  change (catalog.entries.map Sigma.fst).card = copies.length
  rw [enumerates, Multiset.card_map, Multiset.coe_card, List.length_map]

/-- A new copy joins the enumeration. -/
theorem insert
    (enumerates : Enumerates key copies catalog)
    (absent : catalog.lookup (laws.kind item) = none)
    (equal : laws.equal (key copy) item = true) :
    Enumerates key (copy :: copies) (catalog.insert (laws.kind item) copy) := by
  unfold Enumerates
  rw [Finmap.entries_insert_of_notMem (Finmap.lookup_eq_none.mp absent), enumerates,
    List.map_cons, ← Multiset.cons_coe, entry, kind_eq_iff.mpr equal]

/-- An erased copy leaves the enumeration. -/
theorem erase
    (enumerates : Enumerates key (copy :: copies) catalog)
    (equal : laws.equal (key copy) item = true) :
    Enumerates key copies (catalog.erase (laws.kind item)) := by
  have stored : catalog.lookup (laws.kind item) = some copy :=
    enumerates.lookup_iff.mpr ⟨List.mem_cons_self, equal⟩
  have restored : (catalog.erase (laws.kind item)).insert (laws.kind item) copy = catalog := by
    refine Finmap.ext_lookup fun kind => ?_
    by_cases same : kind = laws.kind item
    · rw [same, Finmap.lookup_insert, stored]
    · rw [Finmap.lookup_insert_of_ne _ same, Finmap.lookup_erase_ne same]
  have entries := Finmap.entries_insert_of_notMem
    (Finmap.notMem_erase_self : laws.kind item ∉ catalog.erase (laws.kind item)) (b := copy)
  rw [restored, enumerates, List.map_cons, ← Multiset.cons_coe, entry,
    kind_eq_iff.mpr equal] at entries
  exact ((Multiset.cons_inj_right _).mp entries).symm

/-- Some of the copies enumerate a catalog of their own. -/
theorem exists_sublist
    (enumerates : Enumerates key copies catalog)
    (sublist : other.Sublist copies) :
    ∃ rest : laws.Catalog α, Enumerates key other rest := by
  have nodup : (copies.map (entry laws key)).NodupKeys := by
    have nodup := catalog.nodupKeys
    rwa [enumerates, Multiset.coe_nodupKeys] at nodup
  have nodup' : (other.map (entry laws key)).NodupKeys :=
    nodup.sublist (sublist.map _)
  exact ⟨⟨Multiset.ofList (other.map (entry laws key)), Multiset.coe_nodupKeys.mpr nodup'⟩, rfl⟩

end Enumerates
end Catalog
end Laws
end OpenAddressing
