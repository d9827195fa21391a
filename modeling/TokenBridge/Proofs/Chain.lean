import Mathlib.Data.List.Nodup
import TokenBridge.Chain
import TokenBridge.Proofs.Text.LowerCase

/-!
# Names of chains

A chain is found under its name in any case of ASCII letters. Among lower-case
forms only the names themselves are found (`eq_name_of_lookup_lowerCase`), so
the chains of a wallet go by the names of the registry.
-/

namespace TokenBridge.Chain

theorem lookup_name (c : Chain) : lookup c.name = some c := by
  cases c <;> decide +kernel

theorem name_injective {a b : Chain} (h : a.name = b.name) : a = b :=
  Option.some.inj ((lookup_name a).symm.trans ((congrArg lookup h).trans (lookup_name b)))

theorem nameLe_trans (a b c : String) (h : nameLe a b = true) (h' : nameLe b c = true) :
    nameLe a c = true :=
  decide_eq_true (String.le_trans (of_decide_eq_true h) (of_decide_eq_true h'))

theorem nameLe_total (a b : String) : (nameLe a b || nameLe b a) = true := by
  simpa [nameLe] using String.le_total a b

theorem pairwise_le_mergeSort {α : Type} (f : α → String) (l : List α) :
    (l.mergeSort fun a b => nameLe (f a) (f b)).Pairwise fun a b => f a ≤ f b :=
  (List.pairwise_mergeSort (fun a b c => nameLe_trans (f a) (f b) (f c))
    (fun a b => nameLe_total (f a) (f b)) l).imp fun h => of_decide_eq_true h

/-- Sorting by name leaves elements of one name in their order. -/
theorem filter_mergeSort {α : Type} (f : α → String) (l : List α) (name : String) :
    (l.mergeSort fun a b => nameLe (f a) (f b)).filter (f · == name) =
      l.filter (f · == name) := by
  have hsorted : (l.filter (f · == name)).Pairwise fun a b => nameLe (f a) (f b) = true := by
    refine List.pairwise_of_forall_mem_list fun a ha b hb => decide_eq_true ?_
    have hsame : f a = f b :=
      (beq_iff_eq.1 (List.mem_filter.1 ha).2).trans (beq_iff_eq.1 (List.mem_filter.1 hb).2).symm
    exact hsame ▸ String.le_refl (f a)
  have hsublist := (List.sublist_mergeSort (fun a b c => nameLe_trans (f a) (f b) (f c))
    (fun a b => nameLe_total (f a) (f b)) hsorted List.filter_sublist).filter (f · == name)
  rw [List.filter_filter] at hsublist
  simp only [Bool.and_self] at hsublist
  exact (hsublist.eq_of_length ((List.mergeSort_perm l _).filter _).length_eq.symm).symm

theorem pairwise_lt_mergeSort {α : Type} (f : α → String) {l : List α} (hn : (l.map f).Nodup) :
    ((l.mergeSort fun a b => nameLe (f a) (f b)).map f).Pairwise (· < ·) := by
  have hsorted := (pairwise_le_mergeSort f l).and
    (List.pairwise_map.1 (((List.mergeSort_perm l _).map f).nodup_iff.2 hn))
  refine List.pairwise_map.2 (hsorted.imp ?_)
  rintro a b ⟨hle, hne⟩
  exact String.not_le.1 fun hge => hne (String.le_antisymm hle hge)

/-- Two lists in the order of their names are one if they have the same elements. -/
theorem eq_of_pairwise_lt {α : Type} (f : α → String) {l l' : List α}
    (h : (l.map f).Pairwise (· < ·)) (h' : (l'.map f).Pairwise (· < ·))
    (hmem : ∀ a, a ∈ l ↔ a ∈ l') : l = l' := by
  have hnodup : ∀ {l : List α}, (l.map f).Pairwise (· < ·) → l.Nodup := by
    intro l hl
    refine .of_map f (hl.imp ?_)
    rintro a b hlt rfl
    exact String.lt_irrefl _ hlt
  refine ((List.perm_ext_iff_of_nodup (hnodup h) (hnodup h')).2 hmem).eq_of_pairwise ?_
    (List.pairwise_map.1 h) (List.pairwise_map.1 h')
  intro a b _ _ hab hba
  exact absurd hba (String.lt_asymm hab)

theorem mem_iff_of_filter_eq {α : Type} {f : α → String} {l l' : List α}
    (hsame : ∀ name, l.filter (f · == name) = l'.filter (f · == name)) (a : α) :
    a ∈ l ↔ a ∈ l' := by
  have ha := congrArg (a ∈ ·) (hsame (f a))
  simpa using ha

theorem le_of_pairwise_cons {α : Type} {f : α → String} {a b : α} {l : List α}
    (h : (a :: l).Pairwise fun a b => f a ≤ f b) (hb : b ∈ a :: l) : f a ≤ f b := by
  rcases List.mem_cons.1 hb with rfl | hb
  · exact String.le_refl _
  · exact List.rel_of_pairwise_cons h hb

/-- Two lists in the order of their names are one if their elements of each name are the same, in
one order. -/
theorem eq_of_filter_eq {α : Type} (f : α → String) {l l' : List α}
    (h : l.Pairwise fun a b => f a ≤ f b) (h' : l'.Pairwise fun a b => f a ≤ f b)
    (hsame : ∀ name, l.filter (f · == name) = l'.filter (f · == name)) : l = l' := by
  have hmem := mem_iff_of_filter_eq hsame
  induction l generalizing l' with
  | nil =>
    exact (List.eq_nil_iff_forall_not_mem.2 fun a ha => List.not_mem_nil ((hmem a).2 ha)).symm
  | cons a l ih =>
    cases l' with
    | nil => exact absurd ((hmem a).1 List.mem_cons_self) List.not_mem_nil
    | cons b l' =>
      -- Each head has the least name, and is the first of this name.
      have hname : f b = f a := String.le_antisymm
        (le_of_pairwise_cons h' ((hmem a).1 List.mem_cons_self))
        (le_of_pairwise_cons h ((hmem b).2 List.mem_cons_self))
      have hfirst := hsame (f a)
      simp only [List.filter_cons, hname, beq_self_eq_true, if_true, List.cons.injEq] at hfirst
      obtain ⟨rfl, -⟩ := hfirst
      have hrest : ∀ name, l.filter (f · == name) = l'.filter (f · == name) := by
        intro name
        have hall := hsame name
        rw [List.filter_cons, List.filter_cons] at hall
        split at hall
        · exact List.tail_eq_of_cons_eq hall
        · exact hall
      rw [ih h.of_cons h'.of_cons hrest (mem_iff_of_filter_eq hrest)]

theorem mergeSort_eq_of_perm {α : Type} (f : α → String) {l l' : List α} (h : l.Perm l')
    (hn : (l.map f).Nodup) : (l.mergeSort fun a b => nameLe (f a) (f b)) =
      l'.mergeSort fun a b => nameLe (f a) (f b) := by
  refine List.Perm.eq_of_pairwise ?_ (pairwise_le_mergeSort f l) (pairwise_le_mergeSort f l')
    ((List.mergeSort_perm ..).trans (h.trans (List.mergeSort_perm ..).symm))
  intro a b ha hb hab hba
  exact List.inj_on_of_nodup_map hn (List.mem_mergeSort.1 ha)
    (h.mem_iff.2 (List.mem_mergeSort.1 hb)) (String.le_antisymm hab hba)

theorem map_foldChar_name (c : Chain) : c.name.toList.map Text.foldChar = c.name.toList := by
  cases c <;> decide +kernel

theorem lowerCase_name (c : Chain) : Text.lowerCase c.name = c.name := by
  cases c <;> decide +kernel

theorem sameText_of_lookup {s : String} {c : Chain} (h : lookup s = some c) :
    Text.sameText c.name s = true :=
  List.find?_some (p := fun c => Text.sameText (name c) s) h

theorem mem_all (c : Chain) : c ∈ all := by
  cases c <;> decide

theorem isSupported_of_sameText {s : String} {c : Chain} (h : Text.sameText s c.name = true) :
    isSupported s = true :=
  List.find?_isSome.2 ⟨c, mem_all c, Text.sameText_comm s c.name ▸ h⟩

theorem eq_name_of_lookup_lowerCase {s : String} {c : Chain}
    (h : lookup (Text.lowerCase s) = some c) : Text.lowerCase s = c.name := by
  have hsame := Text.sameText_iff.1 (sameText_of_lookup h)
  rw [map_foldChar_name, Text.map_foldChar_lowerCase] at hsame
  exact String.toList_injective hsame.symm

theorem sameText_name_iff {a b : Chain} : Text.sameText a.name b.name = true ↔ a = b := by
  constructor
  · intro h
    have := Text.sameText_iff.1 h
    rw [map_foldChar_name, map_foldChar_name] at this
    exact name_injective (String.toList_injective this)
  · rintro rfl
    exact Text.sameText_refl _

end TokenBridge.Chain
