import TokenBridge.Balance.Json
import TokenBridge.Payment.Json
import TokenBridge.Proofs.Word.Json
import TokenBridge.Router.Json

/-!
# Records read back

Balances, quotes, routes and results are read back from their JSON form, in
whichever order its members are, and from the text of it (`records_read_back`). A
result of the router has the members of its execution beside the selected route,
which shares names with them but is nested: both are read by themselves.
-/

namespace TokenBridge

open Json (MemberOrder ReadsBack Writable arranged)

variable (o : MemberOrder) {depth : Nat}

/-! ## Balances -/

namespace ChainBalance

theorem writable (b : ChainBalance) : Writable (depth + 1) b.toJson := by
  refine .obj (by simp) ?_
  simp only [List.forall_mem_cons]
  exact ⟨.str _, b.token.writable, b.native.writable, .bool _, nofun⟩

theorem fromJson?_arranged (b : ChainBalance) : fromJson? (arranged o b.toJson) = some b := by
  unfold fromJson? toJson
  rw [Json.fields?_arranged]
  · simp [fields, Json.find?_cons, Json.string?, Json.bool?, Amount.fromJson?_toJson]
  · simp

end ChainBalance

namespace BalanceSummary

theorem writable (s : BalanceSummary) : Writable (depth + 3) s.toJson := by
  refine .obj (by simp) ?_
  simp only [List.forall_mem_cons]
  refine ⟨.arr fun v hv => ?_, s.total.writable, .arr fun v hv => ?_, nofun⟩
  · obtain ⟨b, -, rfl⟩ := List.mem_map.1 hv
    exact b.writable
  · obtain ⟨name, -, rfl⟩ := List.mem_map.1 hv
    exact .str _

theorem fromJson?_arranged (s : BalanceSummary) : fromJson? (arranged o s.toJson) = some s := by
  have hbalances : Json.list? ChainBalance.fromJson?
      (.arr (s.balances.map fun b => arranged o b.toJson)) = some s.balances :=
    Json.list?_map (ChainBalance.fromJson?_arranged o) _
  have heligible : Json.list? Json.string? (.arr (s.eligible.map .str)) = some s.eligible :=
    Json.list?_map Json.string?_str _
  unfold fromJson? toJson
  rw [Json.fields?_arranged]
  · simp [fields, Json.find?_cons, Json.strs, Function.comp_def, hbalances, heligible,
      Amount.fromJson?_toJson]
  · simp

end BalanceSummary

/-! ## Transfers -/

namespace Transfer

theorem Quote.writable (q : Quote) : Writable (depth + 1) q.toJson := by
  refine .obj (by simp) ?_
  simp only [List.forall_mem_cons]
  exact ⟨q.nativeFee.writable, q.amount.writable, q.minAmount.writable,
    Json.writable_word (Nat.le_refl _) _, .str _, .str _, nofun⟩

theorem Quote.fromJson?_arranged (q : Quote) : fromJson? (arranged o q.toJson) = some q := by
  unfold fromJson? toJson
  rw [Json.fields?_arranged]
  · simp [fields, Json.find?_cons, Json.string?, Json.word?_word, Amount.fromJson?_toJson]
  · simp

namespace Execution

theorem writable_of_mem (e : Execution) : ∀ m ∈ e.members, Writable depth m.2 := by
  simp only [members, List.forall_mem_cons]
  exact ⟨e.hash.writable, .str _, e.sent.writable, e.received.writable, .str _, .str _,
    Json.writable_word (Nat.le_refl _) _, nofun⟩

theorem writable (e : Execution) : Writable (depth + 1) e.toJson :=
  .obj (by simp [members]) e.writable_of_mem

theorem fromJson?_arranged_append (e : Execution) (more : List (String × Json))
    (hn : (fields ++ more.map (·.1)).Nodup) :
    fromJson? (arranged o (.obj (e.members ++ more))) = some e := by
  unfold fromJson?
  rw [Json.fields?_arranged]
  · simp [fields, members, Json.find?_cons, Json.string?, Json.word?_word, Amount.fromJson?_toJson,
      Hash.fromJson?_toJson]
  · rwa [List.map_append]

theorem fromJson?_arranged (e : Execution) : fromJson? (arranged o e.toJson) = some e := by
  have hread := e.fromJson?_arranged_append o [] (by decide)
  rwa [List.append_nil] at hread

end Execution

end Transfer

/-! ## Routes -/

namespace Strategy

@[simp] theorem arranged_toJson (s : Strategy) : arranged o s.toJson = s.toJson :=
  Json.arranged_str _

theorem writable (s : Strategy) : Writable depth s.toJson := .str _

theorem fromJson?_toJson (s : Strategy) : fromJson? s.toJson = some s := by
  cases s <;> decide

end Strategy

namespace Route

theorem writable (r : Route) : Writable (depth + 1) r.toJson := by
  refine .obj (by simp) ?_
  simp only [List.forall_mem_cons]
  exact ⟨.str _, .str _, Json.writable_opt Amount.writable _, Json.writable_word (Nat.le_refl _) _,
    .bool _, Json.writable_opt .str _, r.amount.writable, nofun⟩

theorem fromJson?_arranged (r : Route) : fromJson? (arranged o r.toJson) = some r := by
  have hfee := Json.option?_opt Amount.fromJson?_toJson nofun r.nativeFee
  have hreason := Json.option?_opt Json.string?_str nofun r.reason
  unfold fromJson? toJson
  rw [Json.fields?_arranged]
  · simp [fields, Json.find?_cons, Json.string?, Json.bool?, Json.word?_word, hfee, hreason,
      Amount.fromJson?_toJson]
  · simp

end Route

/-! ## Results -/

namespace Router.AutoResult

theorem nodup_names (r : AutoResult) : ((r.execution.members ++
    [("selected_route", r.route.toJson), ("strategy", r.strategy.toJson)]).map (·.1)).Nodup := by
  simp [Transfer.Execution.members]

theorem writable (r : AutoResult) : Writable (depth + 2) r.toJson := by
  refine .obj r.nodup_names fun m hm => ?_
  rcases List.mem_append.1 hm with hm | hm
  · exact r.execution.writable_of_mem m hm
  · simp only [List.mem_cons, List.not_mem_nil, or_false] at hm
    rcases hm with rfl | rfl
    · exact r.route.writable
    · exact r.strategy.writable

theorem execution_arranged (r : AutoResult) :
    Transfer.Execution.fromJson? (arranged o r.toJson) = some r.execution :=
  r.execution.fromJson?_arranged_append o _ (by simp [Transfer.Execution.fields])

theorem fromJson?_arranged (r : AutoResult) : fromJson? (arranged o r.toJson) = some r := by
  have hexecution := r.execution_arranged o
  unfold toJson at hexecution ⊢
  rw [Json.arranged_obj] at hexecution ⊢
  rw [fromJson?, hexecution, Json.find?_arranged r.nodup_names, Json.find?_arranged r.nodup_names]
  simp [Transfer.Execution.members, Json.find?_cons, Route.fromJson?_arranged,
    Strategy.fromJson?_toJson]

/-- A route has no transaction hash, so none is read as an execution. -/
theorem execution_of_route (r : Route) :
    Transfer.Execution.fromJson? (arranged o r.toJson) = none := by
  unfold Transfer.Execution.fromJson? Route.toJson
  rw [Json.fields?_arranged]
  · simp [Transfer.Execution.fields, Json.find?]
  · simp

/-- Only its route says whether it is available, so no result is read as a route. -/
theorem route_of_result (r : AutoResult) : Route.fromJson? (arranged o r.toJson) = none := by
  unfold Route.fromJson? toJson
  rw [Json.fields?_arranged r.nodup_names]
  simp [Route.fields, Transfer.Execution.members, Json.find?]

end Router.AutoResult

namespace Payment.Result

theorem writable (r : Result) : Writable (depth + 1) r.toJson := by
  refine .obj (by simp) ?_
  simp only [List.forall_mem_cons]
  exact ⟨r.hash.writable, .str _, r.bridged.writable, r.received.writable, .str _, .str _,
    Json.writable_word (Nat.le_refl _) _, nofun⟩

theorem fromJson?_arranged (r : Result) : fromJson? (arranged o r.toJson) = some r := by
  unfold fromJson? toJson
  rw [Json.fields?_arranged]
  · simp [fields, Json.find?_cons, Json.string?, Json.word?_word, Amount.fromJson?_toJson,
      Hash.fromJson?_toJson]
  · simp

end Payment.Result

/-! ## Every record -/

/-- Every record is read back. Of a result of the router the execution is read too, and neither is
its route taken for an execution nor the whole of it for a route. -/
theorem records_read_back :
    ReadsBack ChainBalance.toJson ChainBalance.fromJson? ∧
    ReadsBack BalanceSummary.toJson BalanceSummary.fromJson? ∧
    ReadsBack Transfer.Quote.toJson Transfer.Quote.fromJson? ∧
    ReadsBack Route.toJson Route.fromJson? ∧
    ReadsBack Transfer.Execution.toJson Transfer.Execution.fromJson? ∧
    ReadsBack Router.AutoResult.toJson Router.AutoResult.fromJson? ∧
    ReadsBack Payment.Result.toJson Payment.Result.fromJson? ∧
    ∀ (o : MemberOrder) (r : Router.AutoResult),
      Transfer.Execution.fromJson? (arranged o r.toJson) = some r.execution ∧
      Transfer.Execution.fromJson? (arranged o r.route.toJson) = none ∧
      Route.fromJson? (arranged o r.toJson) = none :=
  ⟨Json.readsBack ChainBalance.writable ChainBalance.fromJson?_arranged,
    Json.readsBack BalanceSummary.writable BalanceSummary.fromJson?_arranged,
    Json.readsBack Transfer.Quote.writable Transfer.Quote.fromJson?_arranged,
    Json.readsBack Route.writable Route.fromJson?_arranged,
    Json.readsBack Transfer.Execution.writable Transfer.Execution.fromJson?_arranged,
    Json.readsBack Router.AutoResult.writable Router.AutoResult.fromJson?_arranged,
    Json.readsBack Payment.Result.writable Payment.Result.fromJson?_arranged,
    fun o r => ⟨r.execution_arranged o, Router.AutoResult.execution_of_route o r.route,
      r.route_of_result o⟩⟩

end TokenBridge
