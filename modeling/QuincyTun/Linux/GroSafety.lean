import QuincyTun.Linux.GroCall
import QuincyTun.Linux.LengthBound

/-! Receive offload returns, with tables that the next call can use.

The loop stops early only at a buffer without room for the offload header. Whatever
the packets contain, it reaches that buffer or the end without a panic, and the
accounting then succeeds unless a joined packet has outgrown the length fields.
-/

set_option autoImplicit false

namespace QuincyTun.Linux

open QuincyTun.Foundation

section Loop

variable {host : Host} {offset n : Nat} {canUdpGro : Bool} {s s' : GroState}

inductive LoopEnding (offset : Nat) (canUdpGro : Bool) (n : Nat) (s : GroState)
    (groups : Nat → Grouping) : Run (GroState × Result Unit) → Prop
  | completed {final : GroState} (valid : ValidBatch s.bufs offset n)
      (inv : GroInv s.bufs offset canUdpGro n final (groups n)) :
      LoopEnding offset canUdpGro n s groups (.ok (final, .ok ()))
  | stopped {m : Nat} {final : GroState} (inv : GroInv s.bufs offset canUdpGro m final (groups m)) :
      LoopEnding offset canUdpGro n s groups (.ok (final, invalidInput "invalid offset"))

theorem groStep_outside {buf : ExpandBuffer} (host : Host) (canUdpGro : Bool)
    (here : s.bufs[n]? = some buf)
    (outside : ¬(virtioNetHdrLen ≤ offset ∧ offset < buf.bytes.length)) :
    groStep host offset canUdpGro n s = .ok (s, invalidInput "invalid offset") := by
  rw [groStep, index_ok here, Run.ok_bind, if_pos (by omega)]
  rfl

theorem groLoop_ending (host : Host) (offset : Nat) (canUdpGro : Bool) (fresh : FreshState s)
    (few : s.bufs.length ≤ 65535) (inside : n ≤ s.bufs.length) :
    LoopEnding offset canUdpGro n s (groGroups host offset canUdpGro s)
      (groLoop host offset canUdpGro n s) := by
  induction n with
  | zero =>
    exact .completed (.zero few offset) (fresh.inv offset canUdpGro)
  | succ n ih =>
    have own : s.bufs[n]? = some s.bufs[n] := List.getElem?_eq_getElem (by omega)
    have before := ih (by omega)
    rw [groLoop]
    cases ending : groLoop host offset canUdpGro n s with
    | error panic =>
      rw [ending] at before
      cases before
    | ok ended =>
      rw [ending] at before
      cases before with
      | stopped inv => exact .stopped inv
      | @completed between valid inv =>
        have here : between.bufs[n]? = some s.bufs[n] := (inv.batch.pending n le_rfl).trans own
        -- Only a packet that starts outside of its buffer, or an offset without room for the
        -- header, ends the loop early.
        by_cases room : virtioNetHdrLen ≤ offset ∧ offset < s.bufs[n].bytes.length
        · have valid' := valid.succ own room
          obtain ⟨after, ran, inv'⟩ := groLoop_spec host canUdpGro fresh (n + 1) inside valid'
          rw [groLoop, ending] at ran
          rw [ran]
          exact .completed valid' inv'
        · have step := groStep_outside host canUdpGro here room
          rw [Run.ok_bind]
          simp only [step]
          exact .stopped inv

end Loop

/-! ## Tables between two calls -/

/-- Vectors that wait in a pool are empty. -/
structure GROTable.PoolsEmpty (table : GROTable) : Prop where
  tcp : ∀ items ∈ table.tcpTable.itemsPool, items = []
  udp : ∀ items ∈ table.udpTable.itemsPool, items = []

theorem GROTable.new_poolsEmpty : GROTable.new.PoolsEmpty :=
  ⟨FlowTable.new_fresh.poolEmpty, FlowTable.new_fresh.poolEmpty⟩

theorem GROTable.PoolsEmpty.fresh {table : GROTable} (pools : table.PoolsEmpty)
    (bufs : List ExpandBuffer) : FreshState (table.reset.batch bufs) :=
  ⟨FlowTable.reset_fresh pools.tcp, FlowTable.reset_fresh pools.udp, rfl⟩

theorem FreshState.poolsEmpty {s : GroState} (fresh : FreshState s) : s.table.PoolsEmpty :=
  ⟨fresh.tcp.poolEmpty, fresh.udp.poolEmpty⟩

section Calls

variable {host : Host} {offset n : Nat} {canUdpGro : Bool} {s s' : GroState}
  {outcome : Result Unit} {table table' : GROTable}

theorem GroInv.poolsEmpty {input : List ExpandBuffer} {groups : Grouping}
    (inv : GroInv input offset canUdpGro n s groups) : s.table.PoolsEmpty :=
  ⟨inv.tcp.poolEmpty, inv.udp.poolEmpty⟩

theorem groAccounting_table (ran : groAccounting host offset s = .ok (s', outcome)) :
    s'.table = s.table := by
  obtain ⟨⟨between, errTcp⟩, -, rest⟩ := Run.bind_eq_ok.mp ran
  obtain ⟨⟨bufs, errUdp⟩, -, result⟩ := Run.bind_eq_ok.mp rest
  obtain ⟨rfl, -⟩ := Prod.mk.inj (Except.ok.inj result)
  rfl

/-- Also a call that returned an error left empty pools. -/
theorem handleGro_poolsEmpty (fresh : FreshState s)
    (ran : handleGro host offset canUdpGro s = .ok (s', outcome)) : s'.table.PoolsEmpty := by
  unfold handleGro at ran
  split at ran
  · obtain ⟨rfl, -⟩ := Prod.mk.inj (Except.ok.inj ran)
    exact fresh.poolsEmpty
  · obtain ⟨⟨final, ended⟩, ranLoop, rest⟩ := Run.bind_eq_ok.mp ran
    have ending := groLoop_ending host offset canUdpGro fresh (by omega) le_rfl
    rw [ranLoop] at ending
    cases ending with
    | completed valid inv => exact groAccounting_table rest ▸ inv.poolsEmpty
    | stopped inv =>
      obtain ⟨rfl, -⟩ := Prod.mk.inj (Except.ok.inj rest)
      exact inv.poolsEmpty

theorem sendMultiple_poolsEmpty {σ : Type} {vnetHdr udpGso : Bool}
    {write : List UInt8 → OsCall σ Nat} {bufs : List ExpandBuffer} {rest : OsCall σ Nat}
    (pools : table.PoolsEmpty)
    (ran : sendMultiple host vnetHdr udpGso write table bufs offset = .ok (s', rest)) :
    s'.table.PoolsEmpty := by
  have fresh := pools.fresh bufs
  unfold sendMultiple at ran
  simp only [] at ran
  split at ran
  · obtain ⟨rfl, -⟩ := Prod.mk.inj (Except.ok.inj ran)
    exact fresh.poolsEmpty
  · split at ran
    · obtain ⟨rfl, -⟩ := Prod.mk.inj (Except.ok.inj ran)
      exact fresh.poolsEmpty
    · split at ran
      · obtain ⟨⟨after, ended⟩, called, later⟩ := Run.bind_eq_ok.mp ran
        have left := handleGro_poolsEmpty fresh called
        cases ended with
        | error error =>
          obtain ⟨rfl, -⟩ := Prod.mk.inj (Except.ok.inj later)
          exact left
        | ok _ =>
          obtain ⟨start, -, later⟩ := Run.bind_eq_ok.mp later
          obtain ⟨written, -, later⟩ := Run.bind_eq_ok.mp later
          obtain ⟨rfl, -⟩ := Prod.mk.inj (Except.ok.inj later)
          exact left
      · obtain ⟨written, -, later⟩ := Run.bind_eq_ok.mp ran
        obtain ⟨rfl, -⟩ := Prod.mk.inj (Except.ok.inj later)
        exact ⟨fresh.tcp.poolEmpty, fresh.udp.poolEmpty⟩

theorem TableCall.after_poolsEmpty {call : TableCall} (pools : table.PoolsEmpty)
    (after : call.after table = some table') : table'.PoolsEmpty := by
  cases call with
  | applyGro host bufs offset canUdpGro =>
    obtain ⟨⟨s', outcome⟩, ran, rfl⟩ := Option.map_eq_some_iff.mp after
    exact handleGro_poolsEmpty (pools.fresh bufs) (Run.toOption_eq_some.mp ran)
  | sendMultiple host vnetHdr udpGso bufs offset =>
    obtain ⟨⟨s', rest⟩, ran, rfl⟩ := Option.map_eq_some_iff.mp after
    exact sendMultiple_poolsEmpty pools (Run.toOption_eq_some.mp ran)

theorem reachable_poolsEmpty (reached : groTableMachine.Reachable table) : table.PoolsEmpty :=
  reached.invariant GROTable.new_poolsEmpty fun _ _ _ pools _ after =>
    TableCall.after_poolsEmpty pools after

end Calls

/-! ## No panic -/

/-- The packets that the loop joined have at most 65535 bytes. -/
def JoinedFit (host : Host) (offset : Nat) (canUdpGro : Bool) (s : GroState) : Prop :=
  ∀ final, LoopEnds host offset canUdpGro s final →
    ∀ k, MergedAt final k → (packetAt offset final.bufs k).length ≤ 65535

/-- The only errors are those of a batch that the caller laid out wrongly. -/
theorem applyGro_returns {table : GROTable} (reached : groTableMachine.Reachable table)
    (host : Host) (bufs : List ExpandBuffer) (few : bufs.length ≤ 65535) (offset : Nat)
    (canUdpGro : Bool) (fit : JoinedFit host offset canUdpGro (table.reset.batch bufs)) :
    ∃ s' outcome, table.applyGro host bufs offset canUdpGro = .ok (s', outcome) ∧
      (outcome = .ok () ∨ outcome = invalidInput "invalid offset") := by
  have fresh := (reachable_poolsEmpty reached).fresh bufs
  have ending := groLoop_ending host offset canUdpGro fresh few le_rfl
  have small : ¬(table.reset.batch bufs).bufs.length > 65535 := Nat.not_lt.mpr few
  rw [GROTable.applyGro, handleGro, if_neg small]
  cases ran : groLoop host offset canUdpGro (table.reset.batch bufs).bufs.length
      (table.reset.batch bufs) with
  | error panic =>
    rw [ran] at ending
    cases ending
  | ok ended =>
    rw [ran] at ending
    cases ending with
    | stopped inv => exact ⟨_, _, rfl, .inr rfl⟩
    | completed valid inv =>
      obtain ⟨tcp, udp⟩ := inv.visitable host valid le_rfl (fit _ ⟨few, ran⟩)
      obtain ⟨s', accounted⟩ := groAccounting_total inv.distinct tcp udp
      exact ⟨s', .ok (), accounted, .inl rfl⟩

theorem applyGro_returns_datagrams : ∃ s' outcome,
    GROTable.new.applyGro plainHost ((batchOf 200 twoDatagrams).bufs) 10 true = .ok (s', outcome) ∧
      (outcome = .ok () ∨ outcome = invalidInput "invalid offset") := by
  refine applyGro_returns .start plainHost (batchOf 200 twoDatagrams).bufs (by decide) 10 true ?_
  have fresh := GROTable.new_poolsEmpty.fresh (batchOf 200 twoDatagrams).bufs
  have fits : ∀ k < 2, StepFits 10 true k (groStateAt plainHost 10 true k
      (GROTable.new.reset.batch (batchOf 200 twoDatagrams).bufs)) := by decide +kernel
  exact fun final ends k merged =>
    (ends.inv fresh).joined_le fresh (ends.valid fresh) fits merged

end QuincyTun.Linux
