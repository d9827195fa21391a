import TokenBridge.Contract.Call
import TokenBridge.Proofs.Bytes

/-!
# Reading executor options

An option string is two bytes that tell its type, and options for the workers of
the messaging network, each with the count of its bytes in front. Reading one
gives the options it was written from and accepts nothing else
(`options?_eq_some_iff`). So a gas limit is had back from the options that are made of
it (`executorOptions_exact`).
-/

namespace TokenBridge.Contract

/-- An option for a worker of the messaging network: its type, and what it says. -/
structure WorkerOption where
  worker : UInt8
  type : UInt8
  payload : Bytes
  deriving DecidableEq, Repr

namespace WorkerOption

variable {o : WorkerOption} {os : List WorkerOption} {bs rest : Bytes}

/-! ## One option -/

/-- The worker, two bytes that count what comes after them, the type and the payload. -/
def write (o : WorkerOption) : Bytes :=
  o.worker :: Bytes.ofNat 2 (o.payload.length + 1) ++ o.type :: o.payload

/-- Two bytes can count the type and the payload. -/
def Fits (o : WorkerOption) : Prop := o.payload.length + 1 < 256 ^ 2

/-- Reads the option in front, and gives what is left. -/
def readFront? : Bytes → Option (WorkerOption × Bytes)
  | worker :: high :: low :: bs =>
    let count := Bytes.toNat [high, low]
    if count ≤ bs.length then
      match bs.take count with
      | type :: payload => some (⟨worker, type, payload⟩, bs.drop count)
      | [] => none
    else none
  | _ => none

theorem readFront?_write (h : o.Fits) (rest : Bytes) :
    readFront? (o.write ++ rest) = some (o, rest) := by
  obtain ⟨high, low, hcount⟩ : ∃ high low, Bytes.ofNat 2 (o.payload.length + 1) = [high, low] :=
    ⟨_, _, rfl⟩
  have hnumber : Bytes.toNat [high, low] = (o.type :: o.payload).length := by
    rw [← hcount, Bytes.toNat_ofNat, Nat.mod_eq_of_lt h, List.length_cons]
  have hwrite : o.write ++ rest = o.worker :: high :: low :: ((o.type :: o.payload) ++ rest) := by
    rw [write, hcount]
    simp
  rw [hwrite, readFront?, hnumber, if_pos (by simp), List.take_left, List.drop_left]

theorem eq_of_readFront? (h : readFront? bs = some (o, rest)) :
    bs = o.write ++ rest ∧ o.Fits := by
  revert h
  fun_cases readFront? bs with
  | case1 worker high low bs count hle type payload htake =>
    rintro ⟨⟩
    have hlength : count = payload.length + 1 := by
      rw [← List.length_cons, ← htake, List.length_take_of_le hle]
    have hcount : Bytes.ofNat 2 count = [high, low] := Bytes.ofNat_toNat [high, low]
    refine ⟨?_, ?_⟩
    · rw [write, ← hlength, hcount]
      simp [← htake]
    · rw [Fits, ← hlength]
      exact Bytes.toNat_lt [high, low]
  | case2 | case3 | case4 => nofun

theorem readFront?_eq_some_iff :
    readFront? bs = some (o, rest) ↔ bs = o.write ++ rest ∧ o.Fits := by
  constructor
  · exact eq_of_readFront?
  · rintro ⟨rfl, h⟩
    exact readFront?_write h rest

/-! ## Many options -/

def readAll? (bs : Bytes) : Option (List WorkerOption) :=
  if bs = [] then some []
  else
    match _h : readFront? bs with
    | some (o, rest) => (readAll? rest).map (o :: ·)
    | none => none
  termination_by bs.length
  decreasing_by
    rw [(eq_of_readFront? _h).1, List.length_append, write, List.length_append, List.length_cons]
    omega

/-- What is read in front of options that were written is the first of them. -/
theorem exists_readFront?_of_flatMap (hne : bs ≠ []) (h : bs = os.flatMap write)
    (hfits : ∀ o ∈ os, o.Fits) :
    ∃ o os', os = o :: os' ∧ readFront? bs = some (o, os'.flatMap write) := by
  cases os with
  | nil => exact absurd h hne
  | cons o os' =>
    rw [List.flatMap_cons] at h
    exact ⟨o, os', rfl, readFront?_eq_some_iff.2 ⟨h, hfits o List.mem_cons_self⟩⟩

theorem readAll?_eq_some_iff :
    readAll? bs = some os ↔ bs = os.flatMap write ∧ ∀ o ∈ os, o.Fits := by
  fun_induction readAll? bs generalizing os with
  | case1 =>
    constructor
    · rintro ⟨⟩
      exact ⟨rfl, fun _ ho => absurd ho List.not_mem_nil⟩
    · rintro ⟨h, -⟩
      cases os with
      | nil => rfl
      | cons o os => cases h
  | case2 bs hne o rest hfront ih =>
    obtain ⟨hbs, ho⟩ := readFront?_eq_some_iff.1 hfront
    rw [Option.map_eq_some_iff]
    constructor
    · rintro ⟨os', hrest, rfl⟩
      obtain ⟨hrest, hos'⟩ := ih.1 hrest
      refine ⟨?_, List.forall_mem_cons.2 ⟨ho, hos'⟩⟩
      rw [List.flatMap_cons, ← hrest, ← hbs]
    · rintro ⟨h, hfits⟩
      obtain ⟨o', os', rfl, hfront'⟩ := exists_readFront?_of_flatMap hne h hfits
      cases hfront.symm.trans hfront'
      exact ⟨os', ih.2 ⟨rfl, (List.forall_mem_cons.1 hfits).2⟩, rfl⟩
  | case3 bs hne hfront =>
    constructor
    · nofun
    · rintro ⟨h, hfits⟩
      obtain ⟨_, _, -, hfront'⟩ := exists_readFront?_of_flatMap hne h hfits
      cases hfront.symm.trans hfront'

end WorkerOption

/-! ## Option strings -/

/-- Reads an option string of type 3. -/
def options? (bs : Bytes) : Option (List WorkerOption) :=
  if bs.take 2 = Bytes.ofNat 2 3 then WorkerOption.readAll? (bs.drop 2) else none

theorem options?_eq_some_iff {bs : Bytes} {os : List WorkerOption} :
    options? bs = some os ↔
      bs = Bytes.ofNat 2 3 ++ os.flatMap WorkerOption.write ∧ ∀ o ∈ os, o.Fits := by
  have hlength : (Bytes.ofNat 2 3).length = 2 := Bytes.length_ofNat 2 3
  unfold options?
  constructor
  · intro h
    split at h
    · next htype =>
      obtain ⟨hrest, hfits⟩ := WorkerOption.readAll?_eq_some_iff.1 h
      refine ⟨?_, hfits⟩
      rw [← hrest, ← htype, List.take_append_drop]
    · cases h
  · rintro ⟨rfl, hfits⟩
    rw [List.take_left' hlength, if_pos rfl, List.drop_left' hlength]
    exact WorkerOption.readAll?_eq_some_iff.2 ⟨rfl, hfits⟩

/-! ## Gas limits -/

variable {g g' : Option (BitVec 128)}

def gasOption (gas : BitVec 128) : WorkerOption := ⟨1, 1, Bytes.ofNat 16 gas.toNat⟩

theorem executorOptions_some (gas : BitVec 128) :
    executorOptions (some gas) = Bytes.ofNat 2 3 ++ [gasOption gas].flatMap WorkerOption.write := by
  simp [executorOptions, gasOption, WorkerOption.write]

theorem fits_gasOption (gas : BitVec 128) : (gasOption gas).Fits := by
  rw [WorkerOption.Fits, gasOption, Bytes.length_ofNat]
  decide

theorem toNat_payload_gasOption (gas : BitVec 128) :
    (gasOption gas).payload.toNat = gas.toNat := by
  rw [gasOption, Bytes.toNat_ofNat]
  exact Nat.mod_eq_of_lt gas.isLt

theorem options?_executorOptions (gas : BitVec 128) :
    options? (executorOptions (some gas)) = some [gasOption gas] := by
  have hfits : ∀ o ∈ [gasOption gas], o.Fits := List.forall_mem_singleton.2 (fits_gasOption gas)
  exact options?_eq_some_iff.2 ⟨executorOptions_some gas, hfits⟩

theorem executorOptions_injective (h : executorOptions g = executorOptions g') : g = g' := by
  have hread := congrArg options? h
  cases g with
  | none =>
    cases g' with
    | none => rfl
    | some gas' => cases hread.trans (options?_executorOptions gas')
  | some gas =>
    rw [options?_executorOptions] at hread
    cases g' with
    | none => cases hread
    | some gas' =>
      rw [options?_executorOptions, Option.some.injEq, List.cons.injEq] at hread
      have hnumber : gas.toNat = gas'.toNat := by
        rw [← toNat_payload_gasOption, hread.1, toNat_payload_gasOption]
      rw [BitVec.eq_of_toNat_eq hnumber]

/-- The fields of an option string that tells a gas limit, one after the other. -/
structure Tells (gas : BitVec 128) (type worker count kind payload : Bytes) : Prop where
  type : type.length = 2 ∧ type.toNat = 3
  worker : worker.length = 1 ∧ worker.toNat = 1
  /-- All that comes after the count is counted. -/
  count : count.length = 2 ∧ count.toNat = (kind ++ payload).length
  kind : kind.length = 1 ∧ kind.toNat = 1
  payload : payload.toNat = gas.toNat

theorem tells_gasOption (gas : BitVec 128) :
    Tells gas (Bytes.ofNat 2 3) [1] (Bytes.ofNat 2 17) [1] (gasOption gas).payload where
  type := ⟨Bytes.length_ofNat 2 3, rfl⟩
  worker := ⟨rfl, rfl⟩
  count := by
    refine ⟨Bytes.length_ofNat 2 17, ?_⟩
    rw [List.length_append, gasOption, Bytes.length_ofNat]
    rfl
  kind := ⟨rfl, rfl⟩
  payload := toNat_payload_gasOption gas

/-- Without a gas limit there are no options. With one, the option string consists of its fields, is
read as one option of the executor, and has the limit in it. Different limits have different
options. -/
theorem executorOptions_exact :
    executorOptions none = [] ∧
    (∀ gas, ∃ type worker count kind payload, Tells gas type worker count kind payload ∧
      executorOptions (some gas) = type ++ worker ++ count ++ kind ++ payload) ∧
    (∀ gas, ∃ payload, options? (executorOptions (some gas)) = some [⟨1, 1, payload⟩] ∧
      payload.toNat = gas.toNat) ∧
    ∀ g g', executorOptions g = executorOptions g' ↔ g = g' := by
  refine ⟨rfl, fun gas => ⟨_, _, _, _, _, tells_gasOption gas, ?_⟩,
    fun gas => ⟨_, options?_executorOptions gas, toNat_payload_gasOption gas⟩,
    fun g g' => ⟨executorOptions_injective, congrArg executorOptions⟩⟩
  rw [executorOptions, gasOption, Bytes.length_ofNat]

/-- The payload is counted with its type. -/
example : executorOptions (some 200000) =
    [0, 3, 1, 0, 17, 1, 0, 0, 0, 0, 0, 0, 0, 0, 0, 0, 0, 0, 0, 3, 13, 64] := by decide +kernel

end TokenBridge.Contract
