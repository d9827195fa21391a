import Mathlib.Data.List.Induction
import TokenBridge.Route

/-!
# Selected routes

Whatever the strategy, a route that is selected is one of the available ones
(`mem_of_select`), and the others make no difference (`select_congr`). The best
of a list is the first of its elements whose key is least (`best_eq_find?`), if
the key is what betters: the time, or the fee where every route has one.
-/

namespace TokenBridge.Route

variable {routes routes' : List Route} {x : Route} {key : Route → Nat}

theorem foldl_mem (better : Route → Route → Bool) (rest : List Route) (r : Route) :
    rest.foldl (fun best r => if better r best then r else best) r ∈ r :: rest := by
  induction rest generalizing r with
  | nil => exact List.mem_cons_self
  | cons s rest ih =>
    rw [List.foldl_cons]
    rcases List.mem_cons.1 (ih (if better s r then s else r)) with heq | hmem
    · rw [heq]
      split
      · exact List.mem_cons_of_mem _ List.mem_cons_self
      · exact List.mem_cons_self
    · exact List.mem_cons_of_mem _ (List.mem_cons_of_mem _ hmem)

theorem mem_of_best {better : Route → Route → Bool} (h : best better routes = some x) :
    x ∈ routes := by
  cases routes with
  | nil => cases h
  | cons r rest =>
    cases h
    exact foldl_mem better rest r

theorem mem_of_from? {name : String} (h : from? name routes = some x) : x ∈ routes := by
  unfold from? at h
  split at h
  · cases h
  · exact List.mem_of_find?_eq_some h

theorem mem_of_select {strategy : Strategy} {preferred : Option String}
    (h : select routes strategy preferred = some x) : x ∈ routes ∧ x.available = true := by
  have hmem : x ∈ routes.filter (·.available) := by
    cases strategy with
    | cheapest | fastest => exact mem_of_best h
    | preferred =>
      rcases Option.or_eq_some_iff.1 h with h | ⟨-, h⟩
      · obtain ⟨name, -, h⟩ := Option.bind_eq_some_iff.1 h
        exact mem_of_from? h
      · exact mem_of_best h
  exact List.mem_filter.1 hmem

/-! ## The best of a list -/

def isLeast (key : Route → Nat) (routes : List Route) (x : Route) : Bool :=
  routes.all fun y => decide (key x ≤ key y)

/-- The route has the least key of the list, and stands in front of all others that have it. -/
def Leads (key : Route → Nat) (routes : List Route) (x : Route) : Prop :=
  ∃ before after, routes = before ++ x :: after ∧ (∀ y ∈ before, key x < key y) ∧
    ∀ y ∈ after, key x ≤ key y

theorem Leads.le (h : Leads key routes x) : ∀ y ∈ routes, key x ≤ key y := by
  obtain ⟨before, after, rfl, hbefore, hafter⟩ := h
  intro y hy
  rcases List.mem_append.1 hy with hy | hy
  · exact Nat.le_of_lt (hbefore y hy)
  rcases List.mem_cons.1 hy with rfl | hy
  · exact Nat.le_refl _
  · exact hafter y hy

theorem Leads.find?_eq (h : Leads key routes x) : routes.find? (isLeast key routes) = some x := by
  have hleast : isLeast key routes x = true :=
    List.all_eq_true.2 fun y hy => decide_eq_true (h.le y hy)
  obtain ⟨before, after, hroutes, hbefore, -⟩ := h
  refine List.find?_eq_some_iff_append.2 ⟨hleast, before, after, hroutes, fun y hy => ?_⟩
  have hx : x ∈ routes := by simp [hroutes]
  have hlt := hbefore y hy
  rw [Bool.not_eq_true', isLeast, List.all_eq_false]
  exact ⟨x, hx, by simpa using hlt⟩

theorem Leads.concat (h : Leads key routes x) (s : Route) :
    Leads key (routes ++ [s]) (if key s < key x then s else x) := by
  split
  · next hlt =>
    exact ⟨routes, [], rfl, fun y hy => Nat.lt_of_lt_of_le hlt (h.le y hy), nofun⟩
  · next hge =>
    obtain ⟨before, after, rfl, hbefore, hafter⟩ := h
    refine ⟨before, after ++ [s], by simp, hbefore, fun y hy => ?_⟩
    rcases List.mem_append.1 hy with hy | hy
    · exact hafter y hy
    · rw [List.mem_singleton.1 hy]
      exact Nat.le_of_not_lt hge

/-- Whatever betters by a lesser key leaves the route that leads. -/
theorem leads_of_best {better : Route → Route → Bool}
    (hb : ∀ a ∈ routes, ∀ b ∈ routes, better a b = decide (key a < key b))
    (h : best better routes = some x) : Leads key routes x := by
  cases routes with
  | nil => cases h
  | cons r rest =>
    cases h
    induction rest using List.reverseRec with
    | nil => exact ⟨[], [], rfl, nofun, nofun⟩
    | append_singleton rest s ih =>
      have hmem := foldl_mem better rest r
      have hlead := (ih fun a ha b hb' => hb a (List.mem_append_left [s] ha) b
        (List.mem_append_left [s] hb')).concat s
      rw [List.foldl_append, List.foldl_cons, List.foldl_nil,
        hb s (by simp) _ (List.mem_append_left [s] hmem)]
      simpa using hlead

theorem best_eq_none_iff {better : Route → Route → Bool} :
    best better routes = none ↔ routes = [] := by
  cases routes <;> simp [best]

theorem best_eq_find? {better : Route → Route → Bool}
    (hb : ∀ a ∈ routes, ∀ b ∈ routes, better a b = decide (key a < key b)) :
    best better routes = routes.find? (isLeast key routes) := by
  cases h : best better routes with
  | none =>
    rw [best_eq_none_iff.1 h]
    rfl
  | some x => exact (leads_of_best hb h).find?_eq.symm

/-! ## Routes that make no difference -/

/-- Routes that are not available are put in and taken out one by one, and so moved. -/
inductive Rearranged (routes : List Route) : List Route → Prop where
  | refl : Rearranged routes routes
  | insert {before after : List Route} {x : Route} : x.available = false →
      Rearranged routes (before ++ after) → Rearranged routes (before ++ x :: after)
  | delete {before after : List Route} {x : Route} : x.available = false →
      Rearranged routes (before ++ x :: after) → Rearranged routes (before ++ after)

theorem filter_available_cons {before after : List Route} (h : x.available = false) :
    (before ++ x :: after).filter (·.available) = (before ++ after).filter (·.available) := by
  rw [List.filter_append, List.filter_append, List.filter_cons_of_neg (by simp [h])]

theorem Rearranged.filter_available (h : Rearranged routes routes') :
    routes'.filter (·.available) = routes.filter (·.available) := by
  induction h with
  | refl => rfl
  | insert hx _ ih => rw [filter_available_cons hx, ih]
  | delete hx _ ih => rw [← filter_available_cons hx, ih]

theorem select_congr (h : routes'.filter (·.available) = routes.filter (·.available))
    (strategy : Strategy) (preferred : Option String) :
    select routes' strategy preferred = select routes strategy preferred := by
  unfold select
  rw [h]

/-! ## Fees -/

/-- The fee as a number; nothing where it is not known. -/
def price (x : Route) : Nat := (x.nativeFee.getD 0).toNat

/-- Every available route has a fee. -/
def Priced (routes : List Route) : Prop :=
  ∀ x ∈ routes, x.available = true → ∃ fee, x.nativeFee = some fee

theorem cheaper_eq {y : Route} (hx : ∃ fee, x.nativeFee = some fee)
    (hy : ∃ fee, y.nativeFee = some fee) : cheaper x y = decide (x.price < y.price) := by
  obtain ⟨fee, hx⟩ := hx
  obtain ⟨fee', hy⟩ := hy
  simp only [cheaper, price, hx, hy, Option.getD_some, BitVec.lt_def]

theorem faster_eq (x y : Route) : faster x y = decide (x.seconds.toNat < y.seconds.toNat) := rfl

theorem Priced.best_cheaper_eq (h : Priced routes) :
    best cheaper (routes.filter (·.available)) =
      (routes.filter (·.available)).find? (isLeast price (routes.filter (·.available))) := by
  have hfee : ∀ x ∈ routes.filter (·.available), ∃ fee, x.nativeFee = some fee := by
    intro x hx
    obtain ⟨hmem, havail⟩ := List.mem_filter.1 hx
    exact h x hmem havail
  exact best_eq_find? fun a ha b hb => cheaper_eq (hfee a ha) (hfee b hb)

/-! ## Selections -/

theorem from?_eq_find? {name : String} (h : name ≠ "") :
    from? name routes = routes.find? fun y => Text.sameText y.source name := by
  rw [from?, if_neg (by simpa using h)]

theorem from?_eq_none {name : String}
    (h : name ≠ "" → ∀ y ∈ routes, Text.sameText y.source name = false) :
    from? name routes = none := by
  unfold from?
  split
  · rfl
  · next hname =>
    refine List.find?_eq_none.2 fun y hy => ?_
    rw [h (by simpa using hname) y hy]
    exact Bool.false_ne_true

theorem select_eq_none_iff {strategy : Strategy} {preferred : Option String} :
    select routes strategy preferred = none ↔ ∀ x ∈ routes, x.available = false := by
  have hempty : routes.filter (·.available) = [] ↔ ∀ x ∈ routes, x.available = false := by
    simp [List.filter_eq_nil_iff]
  rw [← hempty]
  cases strategy with
  | cheapest | fastest => exact best_eq_none_iff
  | preferred =>
    constructor
    · intro h
      exact best_eq_none_iff.1 (Option.or_eq_none_iff.1 h).2
    · intro h
      refine Option.or_eq_none_iff.2 ⟨?_, best_eq_none_iff.2 h⟩
      rw [h]
      cases preferred <;> simp [from?]

end TokenBridge.Route
