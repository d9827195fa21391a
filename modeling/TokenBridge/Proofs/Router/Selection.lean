import TokenBridge.Proofs.Route
import TokenBridge.Proofs.Router.Origin

/-!
# The route of a survey that is selected

A survey gives every available route its fee (`priced_of_ends_routes`), so the
cheapest of its routes is the first of least fee. What each strategy selects is
said for any list of routes (`select_earliest`).
-/

namespace TokenBridge.Router

open Bridge (Cache)
open Program (Ends)

variable {r : Router} {destination : Chain} {wanted : Option Amount} {before after : Cache}
  {log : List (Event Wallet.interface)} {found : List Route} {x : Route}

/-- Every route of a survey is what is left to do for a source that was tested. -/
theorem Surveyed.exists_tested (h : Surveyed r destination wanted before log found after)
    (hx : x ∈ found) :
    ∃ b mid l c last l', Tested r destination wanted b mid l c last ∧ Ends c.rest l' x := by
  cases h with
  | mk hperm hread htried hqperm hquote =>
    rcases List.mem_append.1 (List.mem_mergeSort.1 hx) with hx | hx
    · obtain ⟨b, -, mid, l, last, htest⟩ :=
        Program.exists_key_of_forall₂ htried.tested (mem_of_mem_settled hx)
      exact ⟨b, mid, l, _, last, [], htest, .done x⟩
    · obtain ⟨q, hq, l', hl'⟩ := hquote.mem_result hx
      obtain ⟨b, -, mid, l, last, htest⟩ :=
        Program.exists_key_of_forall₂ htried.tested (mem_of_mem_quoting (hqperm.mem_iff.1 hq))
      exact ⟨b, mid, l, _, last, l', htest, hl'⟩

theorem priced_of_ends_routes {name : String}
    (h : Work.Ends (r.routes name wanted) before log (.ok found) after) : Route.Priced found := by
  intro x hx ha
  obtain ⟨_, -, hs⟩ := surveyed_of_ends_ok h
  obtain ⟨_, _, _, _, _, _, htest, hends⟩ := hs.exists_tested hx
  obtain ⟨-, -, -, -, havail⟩ := htest.rest_route hends
  exact (havail ha).1

end TokenBridge.Router

namespace TokenBridge.Route

/-- A selection has a route, an available one, where any is available. The fastest is the first that
takes the least time, and the cheapest the first of least fee where each has a fee. A preferred
source that has an available route gives the first of them, and any other leaves the cheapest.
Routes that are not available may be put in, taken out and moved. The routes that a survey finds
have their fees, whoever answers. -/
theorem select_earliest (routes : List Route) (strategy : Strategy) (preferred : Option String) :
    let usable := routes.filter (·.available)
    (select routes strategy preferred = none ↔ ∀ x ∈ routes, x.available = false) ∧
    (∀ x, select routes strategy preferred = some x → x ∈ routes ∧ x.available = true) ∧
    select routes .fastest preferred = usable.find? (isLeast (·.seconds.toNat) usable) ∧
    (Priced routes →
      select routes .cheapest preferred = usable.find? (isLeast price usable)) ∧
    (∀ name x, preferred = some name → name ≠ "" →
      usable.find? (fun y => Text.sameText y.source name) = some x →
      select routes .preferred preferred = some x) ∧
    ((∀ name, preferred = some name → name ≠ "" →
        ∀ y ∈ usable, Text.sameText y.source name = false) →
      select routes .preferred preferred = select routes .cheapest preferred) ∧
    (∀ routes', Rearranged routes routes' →
      select routes' strategy preferred = select routes strategy preferred) ∧
    ∀ {σ : Type} (h : Handler Wallet.interface σ) (order : Arrangement) (r : Router)
      (name : String) (amount : Option Amount) (cache : Bridge.Cache) (now : Nat) (s : σ) found,
      (Flow.run h order ((ExceptT.run (r.routes name amount)).run cache) now s).result.1 =
        .ok found → Priced found := by
  intro usable
  refine ⟨select_eq_none_iff, fun _ => mem_of_select, ?_, fun h => h.best_cheaper_eq, ?_, ?_,
    fun _ h => select_congr h.filter_available _ _, ?_⟩
  · exact best_eq_find? fun x _ y _ => faster_eq x y
  · rintro name x rfl hname hx
    exact Option.or_eq_some_iff.2 (.inl ((from?_eq_find? hname).trans hx))
  · intro hother
    have hnone : (preferred.bind fun name => from? name usable) = none :=
      Option.bind_eq_none_iff.2 fun name hname => from?_eq_none (hother name hname)
    exact (congrArg (Option.or · _) hnone).trans (Option.none_or ..)
  · intro σ h order r name amount cache now s found hfound
    have hrun : Router.Work.Ends (r.routes name amount) cache _ _ _ :=
      Flow.ends_run h order _ now s
    rw [hfound] at hrun
    exact Router.priced_of_ends_routes hrun

/-- Of two routes with one fee and one time the first is taken, the preferred one being down. -/
example :
    let ink : Route := ⟨"ink", "unichain", some 5, 300, true, none, 9⟩
    let berachain : Route := ⟨"berachain", "unichain", some 5, 300, true, none, 9⟩
    let ethereum : Route := ⟨"ethereum", "unichain", none, 180, false, some "down", 9⟩
    let routes := [ethereum, ink, berachain]
    select routes .fastest none = some ink ∧ select routes .preferred (some "Ethereum") = some ink ∧
      select routes .preferred (some "BERACHAIN") = some berachain := by decide +kernel

end TokenBridge.Route
