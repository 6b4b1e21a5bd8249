import IoModule.Server.Memory

/-!
# What is freed, and what is not

A caller of the API, run in memory: `Process` makes the calls of `Api` on a
heap, and its log has buffers where the log of `Api` has bytes. Nothing is freed
twice there, nothing is read after it was freed, and both answer the same
(`memory_safe`).

What is live at the end is accounted for block by block (`memory_ledger`). The
context and its devices own theirs, the caller owns what pops handed out, and
the rest is lost: nobody has its address any more. How much a call loses is
`ApiCall.loses`:

- `destroy` deletes the context, but not the roles and names of the devices
  still registered: two blocks for each of them.
- a poll after the first loses the copy of every payload it has looked at;
- a connect or a pop that fails at its second or third step loses what it had
  allocated before;
- an `init` over a context that was not destroyed loses all of it.
-/

namespace IoModule

variable (N : JsonText)

/-! ## A caller in memory -/

/-- What a call answers: a pop buffers, any other call a value. -/
inductive HeapResult where
  | value (r : ApiResult)
  | popped (p : Except JsonError HeapPopped)

/-- A call on the caller's pointer. -/
def ApiCall.performAt (context : Option HeapContext) (heap : Heap Bytes) :
    ApiCall → Option (HeapResult × Option HeapContext × Heap Bytes)
  | .init config => do
    let (address, heap) := heap.new []
    match IoModule.init config with
    -- a refused value deletes the context again
    | none =>
      let heap ← heap.delete address
      return (.value (.pointer false), none, heap)
    | some made =>
      return (.value (.pointer true),
        some ⟨address, [], made.context.commandVector, made.context.lastCommandTimestamp⟩, heap)
  | .destroy =>
    match context with
    | none => some (.value (.result (.code .notOk)), none, heap)
    | some con => do
      let heap ← heap.delete con.address
      return (.value (.result (.code .ok)), none, heap)
  | .forwardStatus deviceStatus device sent =>
    let (rc, _) := IoModule.forwardStatus deviceStatus device sent context
    some (.value (.result (.code rc)), context, heap)
  | .forwardErrorMessage errorMsg device sent =>
    let (rc, _) := IoModule.forwardErrorMessage errorMsg device sent context
    some (.value (.result (.code rc)), context, heap)
  | .deviceDisconnected disconnectType device =>
    match context with
    | none => some (.value (.result (.code .contextIncorrect)), none, heap)
    | some con => do
      let (rc, con, heap) ← con.deviceDisconnected disconnectType device heap
      return (.value (.result (.code rc)), some con, heap)
  | .deviceConnected granted device =>
    match context with
    | none => some (.value (.result (.code .contextIncorrect)), none, heap)
    | some con =>
      let (result, con, heap) := con.deviceConnected granted device heap
      some (.value (.result (.ofConnect result)), some con, heap)
  | .waitForCommand answer =>
    match context with
    | none => some (.value (.result (.code .contextIncorrect)), none, heap)
    | some con =>
      let (result, con, heap) := con.waitForCommand N (fun _ => answer) heap
      some (.value (.result (.ofWait result)), some con, heap)
  | .popCommand granted =>
    match context with
    | none => some (.popped (.ok (.failed .contextIncorrect)), none, heap)
    | some con => do
      let (result, con, heap) ← con.popCommand N granted heap
      return (.popped result, some con, heap)
  | .commandAck command device =>
    some (.value (.result (.code (IoModule.commandAck command device context))), context, heap)

/-- A caller in memory. -/
structure Process where
  heap : Heap Bytes
  context : Option HeapContext
  log : List (ApiCall × HeapResult)

namespace Process

/-- Nothing allocated, nothing called. -/
def start : Process := ⟨.empty, none, []⟩

/-- A caller after one more call. -/
def apply (p : Process) (call : ApiCall) : Option Process :=
  match call.performAt N p.context p.heap with
  | some (result, context, heap) => some ⟨heap, context, p.log ++ [(call, result)]⟩
  | none => none

end Process

/-! ## What a call loses -/

/-- How many blocks a call leaves behind that nobody owns. -/
def ApiCall.loses (context : Option Context) (call : ApiCall) : Nat :=
  match context, call with
  | some con, .init _ => 1 + 2 * con.devices.length
  | some con, .destroy => 2 * con.devices.length
  | some _, .deviceConnected granted _ =>
    leftBehind granted.deviceRole granted.deviceName granted.entry
  | some con, .waitForCommand answer => con.copies N answer
  | some _, .popCommand granted =>
    leftBehind granted.command granted.deviceRole granted.deviceName
  | _, _ => 0

/-- How many blocks a caller loses over some calls. -/
def Api.loses (s : Api) : List ApiCall → Nat
  | [] => 0
  | call :: calls =>
    call.loses N s.context + match s.apply N call with
      | some s' => s'.loses calls
      | none => 0

/-- The blocks an answer gives to the caller. -/
def HeapResult.blocks : HeapResult → List Nat
  | .value _ => []
  | .popped p => handedBlocks p

/-- The blocks the pops of a caller have handed out. -/
def Process.handedOut (p : Process) : List Nat := p.log.flatMap fun e => e.2.blocks

/-- The blocks of the context, if there is one. -/
def Process.contextBlocks (p : Process) : List Nat :=
  match p.context with
  | none => []
  | some con => con.blocks

/-- An answer in memory is the answer. -/
def HeapResult.Reads (heap : Heap Bytes) : HeapResult → ApiResult → Prop
  | .value r, r' => r = r'
  | .popped p, r' => ∃ p', HandsOut heap p p' ∧ r' = .result (.ofPop p')

/-- What is behind the pointer in memory is what is behind it. -/
inductive Backed (heap : Heap Bytes) : Option HeapContext → Option Context → List Nat → Prop where
  | null {others : List Nat} (h : heap.Owned others) : Backed heap none none others
  | context {hcon : HeapContext} {con : Context} {others : List Nat}
      (h : Stored heap hcon con others) : Backed heap (some hcon) (some con) others

variable {N}

/-! ## One call -/

/-- What a call has done in memory: it answers the same, what is behind the
pointer is the same, `left` was left behind, and no other block has changed. -/
structure Follows (heap : Heap Bytes) (others : List Nat) (result : ApiResult)
    (context : Option Context) (hresult : HeapResult) (hcontext : Option HeapContext)
    (heap' : Heap Bytes) (left : List Nat) : Prop where
  backed : Backed heap' hcontext context (hresult.blocks ++ left ++ others)
  reads : hresult.Reads heap' result
  unchanged : Unchanged heap heap' others

section Calls

variable {heap : Heap Bytes} {others : List Nat}

/-- A call that hands nothing out. -/
theorem follows_value {heap' : Heap Bytes} {hcontext : Option HeapContext}
    {context : Option Context} {left : List Nat}
    (h : Backed heap' hcontext context (left ++ others)) (hsame : Unchanged heap heap' others)
    (r : ApiResult) : Follows heap others r context (.value r) hcontext heap' left :=
  ⟨h, rfl, hsame⟩

/-- A call that leaves the heap alone. -/
theorem follows_unchanged {hcontext : Option HeapContext} {context : Option Context}
    (h : Backed heap hcontext context others) (r : ApiResult) :
    Follows heap others r context (.value r) hcontext heap [] :=
  ⟨h, rfl, fun _ _ => rfl⟩

/-- The order of the others does not matter. -/
theorem Backed.reorder {hcontext : Option HeapContext} {context : Option Context}
    (h : Backed heap hcontext context others) {others' : List Nat} (hperm : others.Perm others') :
    Backed heap hcontext context others' := by
  cases h with
  | null howned => exact .null (howned.perm hperm)
  | context hstored => exact .context (hstored.reorder hperm)

/-- What is behind the pointer is owned, with the others. -/
theorem Backed.owned {hcontext : Option HeapContext} {context : Option Context}
    (h : Backed heap hcontext context others) :
    ∃ blocks, heap.Owned (blocks ++ others) ∧ blocks.length = (ApiCall.init []).loses N context := by
  cases h with
  | null howned => exact ⟨[], howned, rfl⟩
  | context hstored => exact ⟨_, hstored.owned, hstored.blocks_length⟩

/-- `init`, whatever was behind the pointer before. -/
theorem init_follows (config : List (String × String)) {hcontext : Option HeapContext}
    {context : Option Context} (h : Backed heap hcontext context others) {result : ApiResult}
    {context' : Option Context} {calls : List ClientCall}
    (hcall : (ApiCall.init config).perform N context = some (result, context', calls)) :
    ∃ hresult hcontext' heap' left,
      (ApiCall.init config).performAt N hcontext heap = some (hresult, hcontext', heap')
      ∧ Follows heap others result context' hresult hcontext' heap' left
      ∧ left.length = (ApiCall.init config).loses N context := by
  obtain ⟨blocks, howned, hlength⟩ := h.owned (N := N)
  have hloses : blocks.length = (ApiCall.init config).loses N context := by
    rw [hlength]
    cases context <;> rfl
  have hnew := howned.new ([] : Bytes)
  have hsame : Unchanged heap (heap.new ([] : Bytes)).2 others :=
    unchanged_new howned (fun _ hp => List.mem_append_right _ hp) []
  cases hinit : IoModule.init config with
  | none =>
    simp only [ApiCall.perform, hinit, Option.some.injEq, Prod.mk.injEq] at hcall
    obtain ⟨rfl, rfl, rfl⟩ := hcall
    obtain ⟨heap', hdelete, howned', hsame'⟩ := hnew.delete
    refine ⟨_, none, heap', blocks, ?_, follows_value (.null howned') ?_ _, hloses⟩
    · simp [ApiCall.performAt, hinit, hdelete]
    · exact hsame.trans fun p hp => hsame' p (List.mem_append_right _ hp)
  | some made =>
    simp only [ApiCall.perform, hinit, init_context hinit, Option.some.injEq, Prod.mk.injEq]
      at hcall
    obtain ⟨rfl, rfl, rfl⟩ := hcall
    have hstored : Stored (heap.new ([] : Bytes)).2 ⟨heap.fresh, [], [], 0⟩ .initial
        (blocks ++ others) := ⟨⟨.nil, rfl, rfl⟩, hnew⟩
    refine ⟨_, _, _, blocks, ?_, follows_value (.context hstored) hsame _, hloses⟩
    simp only [ApiCall.performAt, hinit, init_context hinit]
    rfl

/-- `destroy` on a context. -/
theorem destroy_follows {hcon : HeapContext} {con : Context} (h : Stored heap hcon con others) :
    ∃ heap' left, (ApiCall.destroy).performAt N (some hcon) heap
        = some (.value (.result (.code .ok)), none, heap')
      ∧ Follows heap others (.result (.code .ok)) none (.value (.result (.code .ok))) none heap' left
      ∧ left.length = (ApiCall.destroy).loses N (some con) := by
  obtain ⟨heap', hdelete, howned, hsame⟩ := Heap.Owned.delete h.owned
  refine ⟨heap', deviceBlocks hcon.devices, ?_, follows_value (.null howned) ?_ _, ?_⟩
  · simp [ApiCall.performAt, hdelete]
  · exact fun p hp => hsame p (List.mem_append_right _ hp)
  · show (deviceBlocks hcon.devices).length = 2 * con.devices.length
    rw [deviceBlocks_length, h.represents.devices.length_eq]

/-- **One call in memory.** -/
theorem performAt_follows {hcontext : Option HeapContext} {context context' : Option Context}
    (h : Backed heap hcontext context others) (call : ApiCall) {result : ApiResult}
    {calls : List ClientCall} (hcall : call.perform N context = some (result, context', calls)) :
    ∃ hresult hcontext' heap' left, call.performAt N hcontext heap = some (hresult, hcontext', heap')
      ∧ Follows heap others result context' hresult hcontext' heap' left
      ∧ left.length = call.loses N context := by
  cases h with
  | null howned =>
    have hnull : Backed heap none none others := .null howned
    cases call with
    | init config => exact init_follows config hnull hcall
    | popCommand granted =>
      cases hcall
      have hreads : (HeapResult.popped (.ok (.failed .contextIncorrect))).Reads heap
          (.result (.popped (.failed .contextIncorrect))) :=
        ⟨.ok (.failed .contextIncorrect), rfl, rfl⟩
      exact ⟨_, _, _, [], rfl, ⟨hnull, hreads, fun _ _ => rfl⟩, rfl⟩
    | _ =>
      cases hcall
      exact ⟨_, _, _, [], rfl, follows_unchanged hnull _, rfl⟩
  | @context hcon con _ hstored =>
    have hcontext : Backed heap (some hcon) (some con) others := .context hstored
    cases call with
    | init config => exact init_follows config hcontext hcall
    | destroy =>
      cases hcall
      obtain ⟨heap', left, hperform, hfollows, hleft⟩ := destroy_follows (N := N) hstored
      exact ⟨_, _, _, left, hperform, hfollows, hleft⟩
    | forwardStatus deviceStatus device sent =>
      cases hcall
      exact ⟨_, _, _, [], rfl, follows_unchanged hcontext _, rfl⟩
    | forwardErrorMessage errorMsg device sent =>
      cases hcall
      exact ⟨_, _, _, [], rfl, follows_unchanged hcontext _, rfl⟩
    | deviceDisconnected disconnectType device =>
      cases hcall
      obtain ⟨hcon', heap', hperform, hstored', hsame⟩ :=
        disconnect_stored hstored disconnectType device
      refine ⟨.value _, some hcon', heap', [], ?_, ⟨.context hstored', rfl, hsame⟩, rfl⟩
      simp only [ApiCall.performAt, hperform]
      rfl
    | deviceConnected granted device =>
      cases hcall
      obtain ⟨hcon', heap', left, hperform, hstored', hleft, hsame⟩ :=
        connect_stored hstored granted device
      refine ⟨_, _, heap', left, ?_, follows_value (.context hstored') hsame _, hleft⟩
      simp only [ApiCall.performAt, hperform]
      rfl
    | waitForCommand answer =>
      cases hcall
      obtain ⟨hcon', heap', left, hperform, hstored', hleft, hsame⟩ :=
        wait_stored (N := N) hstored answer
      refine ⟨_, _, heap', left, ?_, follows_value (.context hstored') hsame _, hleft⟩
      simp only [ApiCall.performAt, hperform]
      rfl
    | popCommand granted =>
      cases hpop : con.popCommand N granted with
      | none =>
        simp only [ApiCall.perform, popCommand, hpop] at hcall
        cases hcall
      | some popped =>
        obtain ⟨r, con'⟩ := popped
        simp only [ApiCall.perform, popCommand, hpop, Option.some.injEq, Prod.mk.injEq] at hcall
        obtain ⟨rfl, rfl, rfl⟩ := hcall
        obtain ⟨hresult, hcon', heap', left, hperform, hstored', hout, hleft, hsame⟩ :=
          pop_stored hstored granted hpop
        have hreads : (HeapResult.popped hresult).Reads heap' (.result (.ofPop r)) := ⟨r, hout, rfl⟩
        refine ⟨.popped hresult, some hcon', heap', left, ?_, ⟨.context hstored', hreads, hsame⟩,
          hleft⟩
        simp only [ApiCall.performAt, hperform]
        rfl
    | commandAck command device =>
      cases hcall
      exact ⟨_, _, _, [], rfl, follows_unchanged hcontext _, rfl⟩

end Calls

/-! ## Any calls -/

/-- An answer that hands out blocks which have not changed is what it was. -/
theorem HeapResult.Reads.frame {heap heap' : Heap Bytes} {hresult : HeapResult} {result : ApiResult}
    (h : hresult.Reads heap result) (hsame : Unchanged heap heap' hresult.blocks) :
    hresult.Reads heap' result := by
  cases hresult with
  | value r => exact h
  | popped p =>
    obtain ⟨p', hout, rfl⟩ := h
    refine ⟨p', ?_, rfl⟩
    match p, p', hout with
    | .error _, .error _, hout => exact hout
    | .ok (.failed _), .ok (.failed _), hout => exact hout
    | .ok (.done command device remaining), .ok (.done _ _ _), ⟨hcommand, hdevice, hremaining⟩ =>
      refine ⟨hcommand.frame (hsame _ (List.mem_cons_self ..)), hdevice.frame fun p hp => ?_,
        hremaining⟩
      exact hsame p (List.mem_cons_of_mem _ hp)

namespace Process

/-- The log in memory is the log. -/
def LogReads (heap : Heap Bytes) (log : List (ApiCall × HeapResult))
    (values : List (ApiCall × ApiResult)) : Prop :=
  List.Forall₂ (fun e e' => e.1 = e'.1 ∧ e.2.Reads heap e'.2) log values

/-- The caller in memory is where the caller is, and the heap is what its
context owns, what was handed out and what is lost. -/
structure Accounts (p : Process) (s : Api) (lost : List Nat) : Prop where
  backed : Backed p.heap p.context s.context (p.handedOut ++ lost)
  reads : LogReads p.heap p.log s.log

theorem accounts_start : Process.start.Accounts .start [] := ⟨.null Heap.owned_empty, .nil⟩

/-- A log whose blocks have not changed is what it was. -/
theorem LogReads.frame {heap heap' : Heap Bytes} {log : List (ApiCall × HeapResult)}
    {values : List (ApiCall × ApiResult)} (h : LogReads heap log values)
    (hsame : Unchanged heap heap' (log.flatMap fun e => e.2.blocks)) :
    LogReads heap' log values := by
  unfold LogReads at h ⊢
  induction h with
  | nil => exact .nil
  | cons he _ ih =>
    refine .cons ⟨he.1, he.2.frame fun p hp => hsame p ?_⟩ (ih fun p hp => hsame p ?_)
    · exact List.mem_append_left _ hp
    · exact List.mem_append_right _ hp

/-- A call keeps the account, and adds to what is lost as much as it loses. -/
theorem Accounts.apply {p : Process} {s s' : Api} {lost : List Nat} (h : p.Accounts s lost)
    {call : ApiCall} (hstep : s.apply N call = some s') :
    ∃ p' left, p.apply N call = some p' ∧ p'.Accounts s' (left ++ lost)
      ∧ left.length = call.loses N s.context := by
  cases hcall : call.perform N s.context with
  | none =>
    simp only [Api.apply, hcall] at hstep
    cases hstep
  | some performed =>
    obtain ⟨result, context, calls⟩ := performed
    simp only [Api.apply, hcall, Option.some.injEq] at hstep
    obtain ⟨hresult, hcontext, heap', left, hperform, hfollows, hleft⟩ :=
      performAt_follows h.backed call hcall
    have hhanded : Unchanged p.heap heap' p.handedOut :=
      fun q hq => hfollows.unchanged q (List.mem_append_left _ hq)
    refine ⟨⟨heap', hcontext, p.log ++ [(call, hresult)]⟩, left, ?_, ⟨?_, ?_⟩, hleft⟩
    · simp only [Process.apply, hperform]
    · rw [← hstep]
      have hout : Process.handedOut ⟨heap', hcontext, p.log ++ [(call, hresult)]⟩
          = p.handedOut ++ hresult.blocks := by
        simp [Process.handedOut]
      rw [hout]
      -- what was handed out and what was left behind move to their lists
      have hmove : (hresult.blocks ++ left ++ (p.handedOut ++ lost)).Perm
          (p.handedOut ++ hresult.blocks ++ (left ++ lost)) := by
        have hswap : (hresult.blocks ++ left ++ p.handedOut).Perm
            (p.handedOut ++ (hresult.blocks ++ left)) := List.perm_append_comm
        have happend := hswap.append_right lost
        simp only [List.append_assoc] at happend ⊢
        exact happend
      exact hfollows.backed.reorder hmove
    · rw [← hstep]
      exact List.rel_append (h.reads.frame hhanded) (.cons ⟨rfl, hfollows.reads⟩ .nil)

/-- Any number of calls keep the account. -/
theorem Accounts.calls : ∀ (calls : List ApiCall) {p : Process} {s s' : Api} {lost : List Nat},
    p.Accounts s lost → calls.foldlM (Api.apply N) s = some s' →
    ∃ p' left, calls.foldlM (Process.apply N) p = some p' ∧ p'.Accounts s' (left ++ lost)
      ∧ left.length = s.loses N calls := by
  intro calls
  induction calls with
  | nil =>
    intro p s s' lost h hrun
    cases hrun
    exact ⟨p, [], rfl, h, rfl⟩
  | cons call calls ih =>
    intro p s s' lost h hrun
    rw [List.foldlM_cons] at hrun
    obtain ⟨s₁, hstep, hrest⟩ := Option.bind_eq_some_iff.mp hrun
    obtain ⟨p₁, left₁, hp₁, hacc₁, hleft₁⟩ := h.apply hstep
    obtain ⟨p₂, left₂, hp₂, hacc₂, hleft₂⟩ := ih hacc₁ hrest
    refine ⟨p₂, left₂ ++ left₁, ?_, ?_, ?_⟩
    · rw [List.foldlM_cons, hp₁]
      exact hp₂
    · rw [List.append_assoc]
      exact hacc₂
    · rw [List.length_append, hleft₁, hleft₂, Api.loses, hstep, Nat.add_comm]

/-- What is behind the pointer in memory is what is behind it, and the answers
read as the answers. -/
structure Represents (p : Process) (s : Api) : Prop where
  null : s.context = none → p.context = none
  context : ∀ con, s.context = some con →
    ∃ hcon, p.context = some hcon ∧ hcon.Represents p.heap con
  log : LogReads p.heap p.log s.log

theorem Accounts.represents {p : Process} {s : Api} {lost : List Nat} (h : p.Accounts s lost) :
    p.Represents s := by
  obtain ⟨hbacked, hreads⟩ := h
  generalize hhcontext : p.context = hcontext at hbacked
  generalize hcontext : s.context = context at hbacked
  cases hbacked with
  | null howned =>
    exact ⟨fun _ => hhcontext, (fun con hcon => nomatch hcontext.symm.trans hcon), hreads⟩
  | @context hcon con _ hstored =>
    refine ⟨(fun hnull => nomatch hcontext.symm.trans hnull), fun con' hcon' => ?_, hreads⟩
    obtain rfl : con = con' := Option.some.inj (hcontext.symm.trans hcon')
    exact ⟨hcon, hhcontext, hstored.represents⟩

/-- How many blocks a context owns. -/
def owns : Option Context → Nat
  | none => 0
  | some con => 1 + 2 * con.devices.length

/-- The blocks of an account. -/
theorem Accounts.owned {p : Process} {s : Api} {lost : List Nat} (h : p.Accounts s lost) :
    p.heap.Owned (p.contextBlocks ++ (p.handedOut ++ lost))
      ∧ p.contextBlocks.length = owns s.context := by
  have hbacked := h.backed
  unfold contextBlocks
  generalize p.context = hcontext at hbacked ⊢
  generalize s.context = context at hbacked ⊢
  cases hbacked with
  | null howned => exact ⟨howned, rfl⟩
  | context hstored => exact ⟨hstored.owned, hstored.blocks_length⟩

end Process

open Process

/-- **The API is safe in memory.** Whatever is called, any number of contexts
one after the other: as long as no empty queue is popped, every call is defined
in memory too. No block is freed twice or read after it was freed, the context
in memory is the context, and every answer reads as the answer. -/
theorem memory_safe (calls : List ApiCall) {s : Api}
    (h : calls.foldlM (Api.apply N) .start = some s) :
    ∃ p, calls.foldlM (Process.apply N) .start = some p ∧ p.Represents s := by
  obtain ⟨p, left, hrun, hacc, -⟩ := accounts_start.calls calls h
  exact ⟨p, hrun, hacc.represents⟩

/-- **Every block is accounted for.** After any calls the live blocks are,
each of them once, those of the context, which owns one and two for each of its
devices, those that pops have handed out, and as many lost ones as the calls
have lost. -/
theorem memory_ledger (calls : List ApiCall) {s : Api}
    (h : calls.foldlM (Api.apply N) .start = some s) :
    ∃ p lost, calls.foldlM (Process.apply N) .start = some p
      ∧ p.heap.Owned (p.contextBlocks ++ (p.handedOut ++ lost))
      ∧ p.contextBlocks.length = owns s.context
      ∧ lost.length = Api.start.loses N calls := by
  obtain ⟨p, left, hrun, hacc, hleft⟩ := accounts_start.calls calls h
  rw [List.append_nil] at hacc
  exact ⟨p, left, hrun, hacc.owned.1, hacc.owned.2, hleft⟩

/-- Two devices, one of them connected a second time without memory for its
name and then disconnected; a first poll, one that brings two commands, a pop
that fails and one that does not; and a new context. -/
def memoryCalls : List ApiCall :=
  [.init documentedConfig, .deviceConnected ⟨true, true, true⟩ (gate 0),
    .deviceConnected ⟨true, true, true⟩ (gate 1), .deviceConnected ⟨true, false, true⟩ (gate 0),
    .deviceDisconnected 0 (gate 0), .waitForCommand (.commands [] true),
    .waitForCommand (.commands mixedBatch true), .popCommand ⟨true, true, false⟩,
    .popCommand ⟨true, true, true⟩, .destroy, .init documentedConfig]

/-- These calls in memory. -/
theorem memory_safe_calls :
    ∃ s p, memoryCalls.foldlM (Api.apply .compact) .start = some s
      ∧ memoryCalls.foldlM (Process.apply .compact) .start = some p ∧ p.Represents s := by
  obtain ⟨s, hs⟩ : ∃ s, memoryCalls.foldlM (Api.apply .compact) .start = some s :=
    Option.isSome_iff_exists.mp (by decide +kernel)
  obtain ⟨p, hp, hrepresents⟩ := memory_safe memoryCalls hs
  exact ⟨s, p, hs, hp, hrepresents⟩

/-- They lose seven blocks: one in the connect that fails, two copies of
payloads, two in the pop that fails, and role and name of the device that is
still registered. -/
theorem memory_ledger_calls :
    ∃ (s : Api) (p : Process) (lost : List Nat),
      memoryCalls.foldlM (Process.apply .compact) .start = some p
      ∧ p.heap.Owned (p.contextBlocks ++ (p.handedOut ++ lost))
      ∧ p.contextBlocks.length = owns s.context ∧ lost.length = 7 := by
  obtain ⟨s, hs⟩ : ∃ s, memoryCalls.foldlM (Api.apply .compact) .start = some s :=
    Option.isSome_iff_exists.mp (by decide +kernel)
  obtain ⟨p, lost, hp, howned, hblocks, hlost⟩ := memory_ledger memoryCalls hs
  have hseven : Api.start.loses .compact memoryCalls = 7 := by decide +kernel
  exact ⟨s, p, lost, hp, howned, hblocks, hlost.trans hseven⟩

end IoModule
