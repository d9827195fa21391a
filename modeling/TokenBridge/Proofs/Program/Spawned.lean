import Mathlib.Data.List.Forall2
import Mathlib.Data.List.Perm.Basic
import TokenBridge.Proofs.Program

/-!
# Spawned programs

Programs that were spawned at once share one log. Where each has a key and every
event tells by `own` to which key it belongs, a program ends as it would by
itself, answered as its own part of the log says (`AllEnd.apart`), whatever the
others were answered and in whichever order they finish (`AllEnd.apart_of_perm`).
-/

namespace TokenBridge.Program

variable {I : Interface} {α κ : Type} {ps ts : List (Program I α)} {log : List (Event I)}
  {xs : List α} {keys : List κ} {own : κ → Event I → Bool} {R : κ → Program I α → Prop}

theorem AllEnd.mem_result {x : α} (h : AllEnd ps log xs) (hx : x ∈ xs) :
    ∃ p ∈ ps, ∃ l, Ends p l x := by
  induction h with
  | nil => cases hx
  | cons hp hps ih =>
    rcases List.mem_cons.1 hx with rfl | hx
    · exact ⟨_, List.mem_cons_self, _, hp⟩
    · obtain ⟨p, hp, l, hl⟩ := ih hx
      exact ⟨p, List.mem_cons_of_mem _ hp, l, hl⟩

theorem AllEnd.mem_log {e : Event I} (h : AllEnd ps log xs) (he : e ∈ log) :
    ∃ p ∈ ps, ∃ x ∈ xs, ∃ l, Ends p l x ∧ e ∈ l := by
  induction h with
  | nil => cases he
  | cons hp hps ih =>
    rcases List.mem_append.1 he with he | he
    · exact ⟨_, List.mem_cons_self, _, List.mem_cons_self, _, hp, he⟩
    · obtain ⟨p, hp, x, hx, l, hl, he⟩ := ih he
      exact ⟨p, List.mem_cons_of_mem _ hp, x, List.mem_cons_of_mem _ hx, l, hl, he⟩

/-- No event belongs to both keys. -/
def Apart (own : κ → Event I → Bool) (k k' : κ) : Prop :=
  ∀ e, own k e = true → own k' e = false

theorem Apart.symm {k k' : κ} (h : Apart own k k') : Apart own k' k := by
  intro e he
  cases hk : own k e with
  | false => rfl
  | true => exact absurd he (Bool.eq_false_iff.1 (h e hk))

theorem AllEnd.exists_own (h : AllEnd ps log xs) (hk : List.Forall₂ R keys ps)
    (hown : ∀ k p l x, R k p → Ends p l x → ∀ e ∈ l, own k e = true) :
    ∀ e ∈ log, ∃ k ∈ keys, own k e = true := by
  induction h generalizing keys with
  | nil =>
    intro e he
    cases he
  | cons hp hps ih =>
    cases hk with
    | cons hr hk =>
      intro e he
      rcases List.mem_append.1 he with he | he
      · exact ⟨_, List.mem_cons_self, hown _ _ _ _ hr hp e he⟩
      · obtain ⟨k, hmem, hke⟩ := ih hk e he
        exact ⟨k, List.mem_cons_of_mem _ hmem, hke⟩

theorem filter_eq_nil_of_apart (keys : List κ) {k : κ}
    (hlog : ∀ e ∈ log, ∃ k' ∈ keys, own k' e = true) (hk : ∀ k' ∈ keys, Apart own k k') :
    log.filter (own k) = [] := by
  rw [List.filter_eq_nil_iff]
  intro e he hke
  obtain ⟨k', hmem, hke'⟩ := hlog e he
  exact absurd hke' (Bool.eq_false_iff.1 (hk k' hmem e hke))

/-- Each program ends as it would by itself, answered as its own part of the log says. -/
theorem AllEnd.apart (h : AllEnd ps log xs) (hk : List.Forall₂ R keys ps)
    (hown : ∀ k p l x, R k p → Ends p l x → ∀ e ∈ l, own k e = true)
    (hd : keys.Pairwise (Apart own)) :
    List.Forall₂ (fun k x => ∃ p, R k p ∧ Ends p (log.filter (own k)) x) keys xs := by
  induction h generalizing keys with
  | nil =>
    cases hk
    exact .nil
  | @cons p ps l l' x xs hp hps ih =>
    cases hk with
    | @cons k _ keys _ hr hk =>
      obtain ⟨hhead, htail⟩ := List.pairwise_cons.1 hd
      have hfirst : l.filter (own k) = l := List.filter_eq_self.2 (hown _ _ _ _ hr hp)
      have hrest : l'.filter (own k) = [] :=
        filter_eq_nil_of_apart keys (hps.exists_own hk hown) hhead
      have hothers : ∀ k' ∈ keys, l.filter (own k') = [] := by
        intro k' hk'
        refine filter_eq_nil_of_apart [k] ?_ ?_
        · exact fun e he => ⟨k, List.mem_singleton.2 rfl, hown _ _ _ _ hr hp e he⟩
        · exact fun k₁ h₁ => List.mem_singleton.1 h₁ ▸ (hhead k' hk').symm
      refine .cons ⟨p, hr, ?_⟩ ?_
      · rwa [List.filter_append, hfirst, hrest, List.append_nil]
      · refine List.Forall₂.imp ?_ ((List.forall₂_and_left _ _).2 ⟨hothers, ih hk htail⟩)
        rintro k' x ⟨hnil, q, hq, he⟩
        exact ⟨q, hq, by rwa [List.filter_append, hnil]⟩

theorem AllEnd.apart_of_perm (own : κ → Event I → Bool) (h : AllEnd ts log xs) (hp : ts.Perm ps)
    (hk : List.Forall₂ R keys ps)
    (hown : ∀ k p l x, R k p → Ends p l x → ∀ e ∈ l, own k e = true)
    (hd : keys.Pairwise (Apart own)) :
    ∃ keys', keys'.Perm keys ∧
      List.Forall₂ (fun k x => ∃ p, R k p ∧ Ends p (log.filter (own k)) x) keys' xs := by
  obtain ⟨keys', hk', hperm⟩ := List.perm_comp_forall₂ hp hk.flip
  refine ⟨keys', hperm, h.apart hk'.flip hown ?_⟩
  exact (hperm.pairwise_iff Apart.symm).2 hd

theorem exists_key_of_forall₂ {S : κ → α → Prop} {x : α} (h : List.Forall₂ S keys xs)
    (hx : x ∈ xs) : ∃ k ∈ keys, S k x := by
  induction h with
  | nil => cases hx
  | cons hk _ ih =>
    rcases List.mem_cons.1 hx with rfl | hx
    · exact ⟨_, List.mem_cons_self, hk⟩
    · obtain ⟨k, hmem, hk⟩ := ih hx
      exact ⟨k, List.mem_cons_of_mem _ hmem, hk⟩

/-- Results that agree with their keys one by one are labelled as the keys are. -/
theorem map_eq_of_forall₂ {γ : Type} {f : κ → γ} {g : α → γ} {P : α → Prop}
    (h : List.Forall₂ (fun k x => f k = g x ∧ P x) keys xs) :
    keys.map f = xs.map g ∧ ∀ x ∈ xs, P x := by
  induction h with
  | nil => exact ⟨rfl, fun _ hx => by cases hx⟩
  | cons hx _ ih => exact ⟨congrArg₂ _ hx.1 ih.1, List.forall_mem_cons.2 ⟨hx.2, ih.2⟩⟩

end TokenBridge.Program
