import ProxyTunnels.Wireguard.Inner

/-! What the operations behind the lock do to the socket set, as a ledger of handles.

A handle together with the kind of socket it is meant for is a token. The ledger follows,
for every token, whether the set has that socket; an operation gains and loses tokens and
leaves every other socket as it is.
-/

set_option autoImplicit false

namespace ProxyTunnels.Wireguard
open Machine

abbrev Token := Handle × Kind

def owns (token held : Token) : Nat := if held = token then 1 else 0

@[simp] theorem owns_self (token : Token) : owns token token = 1 := if_pos rfl

section Present
variable {smoltcp : Smoltcp}

def Inner.present (inner : Inner smoltcp) (token : Token) : Nat :=
  if inner.kindAt token.1 = some token.2 then 1 else 0

/-- Handles the locked state itself keeps: the resolver's and those of closing sockets. -/
def Inner.reserved (inner : Inner smoltcp) : List Token :=
  inner.dns.toList.map (fun handle => (handle, .dns)) ++
    inner.closing.map fun entry => (entry.handle, .tcp)

variable {inner next final : Inner smoltcp} {handle : Handle}

theorem Inner.present_of_kindAt {token : Token} (found : inner.kindAt token.1 = some token.2) :
    inner.present token = 1 := if_pos found

theorem Inner.kindAt_of_present {token : Token} (counted : 0 < inner.present token) :
    inner.kindAt token.1 = some token.2 := by
  unfold Inner.present at counted
  split at counted
  · assumption
  · omega

theorem Inner.getTcp_of_kindAt (found : inner.kindAt handle = some .tcp) :
    ∃ socket, inner.getTcp handle = some socket := by
  unfold Inner.kindAt at found
  unfold Inner.getTcp
  cases place : inner.sockets.get handle with
  | none => simp [place] at found
  | some socket =>
    cases socket with
    | tcp socket => exact ⟨socket, rfl⟩
    | udp socket => simp [place, Socket.kind] at found
    | dns socket => simp [place, Socket.kind] at found

theorem Inner.getUdp_of_kindAt (found : inner.kindAt handle = some .udp) :
    ∃ socket, inner.getUdp handle = some socket := by
  unfold Inner.kindAt at found
  unfold Inner.getUdp
  cases place : inner.sockets.get handle with
  | none => simp [place] at found
  | some socket =>
    cases socket with
    | tcp socket => simp [place, Socket.kind] at found
    | udp socket => exact ⟨socket, rfl⟩
    | dns socket => simp [place, Socket.kind] at found

theorem Inner.getDns_of_kindAt (found : inner.kindAt handle = some .dns) :
    ∃ socket, inner.getDns handle = some socket := by
  unfold Inner.kindAt at found
  unfold Inner.getDns
  cases place : inner.sockets.get handle with
  | none => simp [place] at found
  | some socket =>
    cases socket with
    | tcp socket => simp [place, Socket.kind] at found
    | udp socket => simp [place, Socket.kind] at found
    | dns socket => exact ⟨socket, rfl⟩

theorem Inner.get_of_getTcp {socket : smoltcp.Tcp} (found : inner.getTcp handle = some socket) :
    inner.sockets.get handle = some (.tcp socket) := by
  unfold Inner.getTcp at found
  split at found
  · next place =>
    cases found
    exact place
  · cases found

theorem Inner.kindAt_of_getTcp {socket : smoltcp.Tcp} (found : inner.getTcp handle = some socket) :
    inner.kindAt handle = some .tcp := by
  unfold Inner.kindAt
  rw [Inner.get_of_getTcp found]
  rfl

theorem Inner.getTcp_put (found : inner.kindAt handle = some .tcp) (socket : smoltcp.Tcp) :
    (inner.put handle (.tcp socket)).getTcp handle = some socket := by
  obtain ⟨old, place⟩ := Inner.getTcp_of_kindAt found
  unfold Inner.getTcp Inner.put
  rw [Slab.get_replace (Inner.get_of_getTcp place), if_pos rfl]

end Present

section Changes
variable {smoltcp : Smoltcp} {inner next final : Inner smoltcp} {handle : Handle}

/-- `next` differs from `inner` in the sockets at `touched`, the tokens `gained` and the tokens
`lost`, and in nothing the ledger follows beside these. -/
structure Inner.Changes (inner next : Inner smoltcp) (touched : List Handle) (gained lost : List Token) :
    Prop where
  dns : next.dns = inner.dns
  closing : next.closing = inner.closing
  ledger : ∀ token, next.present token + total (owns token) lost =
    inner.present token + total (owns token) gained
  frame : ∀ handle, handle ∉ touched → inner.kindAt handle ≠ none →
    next.sockets.get handle = inner.sockets.get handle

theorem Inner.Changes.refl (inner : Inner smoltcp) : inner.Changes inner [] [] [] :=
  ⟨rfl, rfl, fun _ => rfl, fun _ _ _ => rfl⟩

theorem Inner.Changes.trans {first second : List Handle} {gained gained' lost lost' : List Token}
    (left : inner.Changes next first gained lost) (right : next.Changes final second gained' lost') :
    inner.Changes final (first ++ second) (gained ++ gained') (lost ++ lost') where
  dns := right.dns.trans left.dns
  closing := right.closing.trans left.closing
  ledger token := by
    have before := left.ledger token
    have after := right.ledger token
    rw [total_append, total_append]
    omega
  frame handle untouched taken := by
    rw [List.mem_append, not_or] at untouched
    have same := left.frame handle untouched.1 taken
    rw [← same]
    refine right.frame handle untouched.2 ?_
    unfold Inner.kindAt at taken ⊢
    rw [same]
    exact taken

theorem Inner.Changes.untouch {touched : List Handle} {gained lost : List Token}
    (changes : inner.Changes next (handle :: touched) gained lost) (free : inner.kindAt handle = none) :
    inner.Changes next touched gained lost where
  dns := changes.dns
  closing := changes.closing
  ledger := changes.ledger
  frame other untouched taken := by
    refine changes.frame other ?_ taken
    rw [List.mem_cons, not_or]
    refine ⟨?_, untouched⟩
    intro same
    subst same
    exact taken free

theorem Inner.changes_put {socket : Socket smoltcp} (found : inner.kindAt handle = some socket.kind) :
    inner.Changes (inner.put handle socket) [handle] [] [] := by
  obtain ⟨old, place, kind⟩ : ∃ old, inner.sockets.get handle = some old ∧ old.kind = socket.kind := by
    unfold Inner.kindAt at found
    cases place : inner.sockets.get handle with
    | none => simp [place] at found
    | some old => exact ⟨old, rfl, by simpa [place] using found⟩
  have get : ∀ other, (inner.put handle socket).sockets.get other =
      if other = handle then some socket else inner.sockets.get other := Slab.get_replace place socket
  refine ⟨rfl, rfl, ?_, ?_⟩
  · intro token
    have same : (inner.put handle socket).kindAt token.1 = inner.kindAt token.1 := by
      unfold Inner.kindAt
      rw [get]
      split
      · next here =>
        rw [here, place]
        simp [kind]
      · rfl
    unfold Inner.present
    rw [same]
  · intro other untouched _
    rw [get, if_neg (by simpa using untouched)]

theorem Inner.kindAt_vacant (vacant : inner.sockets.Vacant handle) : inner.kindAt handle = none := by
  unfold Inner.kindAt
  rw [vacant.get_eq_none]
  rfl

theorem Inner.changes_add {socket : Socket smoltcp} (vacant : inner.sockets.Vacant handle) :
    inner.Changes (inner.add handle socket) [] [(handle, socket.kind)] [] := by
  have get : ∀ other, (inner.add handle socket).sockets.get other =
      if other = handle then some socket else inner.sockets.get other := Slab.get_insert vacant socket
  have free := Inner.kindAt_vacant vacant
  refine ⟨rfl, rfl, ?_, ?_⟩
  · intro token
    obtain ⟨place, kind⟩ := token
    have after : (inner.add handle socket).kindAt place =
        if place = handle then some socket.kind else inner.kindAt place := by
      unfold Inner.kindAt
      rw [get]
      split <;> rfl
    unfold Inner.present owns
    simp only [after, total_nil, total_cons, Prod.mk.injEq]
    by_cases here : place = handle
    · subst here
      simp [free]
    · simp [here, Ne.symm here]
  · intro other _ taken
    rw [get, if_neg]
    intro same
    subst same
    exact taken free

theorem Inner.kindAt_add {socket : Socket smoltcp} (vacant : inner.sockets.Vacant handle) :
    (inner.add handle socket).kindAt handle = some socket.kind := by
  unfold Inner.kindAt Inner.add
  rw [Slab.get_insert vacant, if_pos rfl]
  rfl

theorem Inner.changes_discard {kind : Kind} (found : inner.kindAt handle = some kind) :
    (inner.discard handle).Satisfies fun next => inner.Changes next [handle] [] [(handle, kind)] := by
  unfold Inner.discard
  cases place : inner.sockets.get handle with
  | none => simp [Inner.kindAt, place] at found
  | some socket =>
    have get : ∀ other, (inner.sockets.remove handle).get other =
        if other = handle then none else inner.sockets.get other := Slab.get_remove _ _
    refine ⟨rfl, rfl, ?_, ?_⟩
    · intro token
      obtain ⟨other, otherKind⟩ := token
      have after : Inner.kindAt { inner with sockets := inner.sockets.remove handle } other =
          if other = handle then none else inner.kindAt other := by
        unfold Inner.kindAt
        rw [get]
        split <;> rfl
      unfold Inner.present owns
      simp only [after, total_nil, total_cons, Prod.mk.injEq]
      by_cases here : other = handle
      · subst here
        simp [found]
      · simp [here, Ne.symm here]
    · intro other untouched _
      rw [get, if_neg (by simpa using untouched)]

theorem Inner.Changes.weaken {touched wider : List Handle} {gained lost : List Token}
    (changes : inner.Changes next touched gained lost) (sub : touched ⊆ wider) :
    inner.Changes next wider gained lost :=
  { changes with frame := fun other untouched => changes.frame other fun member => untouched (sub member) }

theorem Inner.Changes.kindAt {touched : List Handle} {gained lost : List Token} {kind : Kind}
    (changes : inner.Changes next touched gained lost) (found : inner.kindAt handle = some kind)
    (kept : total (owns (handle, kind)) lost = 0) : next.kindAt handle = some kind := by
  have ledger := changes.ledger (handle, kind)
  have before : inner.present (handle, kind) = 1 := Inner.present_of_kindAt found
  have after : 0 < next.present (handle, kind) := by omega
  exact Inner.kindAt_of_present after

theorem Inner.updateTcp_changes {change : smoltcp.Tcp → smoltcp.Tcp} (found : inner.kindAt handle = some .tcp) :
    (inner.updateTcp handle change).Satisfies fun next => inner.Changes next [handle] [] [] := by
  obtain ⟨socket, place⟩ := Inner.getTcp_of_kindAt found
  unfold Inner.updateTcp
  rw [place]
  exact Inner.changes_put found

theorem Inner.abortDiscard_changes (found : inner.kindAt handle = some .tcp) :
    (inner.abortDiscard handle).Satisfies fun next => inner.Changes next [handle] [] [(handle, .tcp)] := by
  refine (Inner.updateTcp_changes found).bind ?_
  intro middle aborted
  refine (Inner.changes_discard (aborted.kindAt found rfl)).mono ?_
  intro next discarded
  exact (aborted.trans discarded).weaken (by simp)

def poolTokens (pool : List Handle) : List Token := pool.map fun handle => (handle, .tcp)

theorem Inner.abortDiscardAll_changes {pool : List Handle}
    (present : ∀ token, total (owns token) (poolTokens pool) ≤ inner.present token) :
    (inner.abortDiscardAll pool).Satisfies fun next => inner.Changes next pool [] (poolTokens pool) := by
  induction pool generalizing inner with
  | nil => exact Inner.Changes.refl inner
  | cons handle rest ih =>
    have here := present (handle, .tcp)
    simp only [poolTokens, List.map_cons, total_cons, owns_self] at here
    have taken : 0 < inner.present (handle, .tcp) := by omega
    have found : inner.kindAt handle = some .tcp := Inner.kindAt_of_present taken
    refine (Inner.abortDiscard_changes found).bind ?_
    intro middle discarded
    have left : ∀ token, total (owns token) (poolTokens rest) ≤ middle.present token := by
      intro token
      have ledger := discarded.ledger token
      have before := present token
      simp only [poolTokens, List.map_cons, total_cons, total_nil] at ledger before ⊢
      omega
    refine (ih left).mono ?_
    intro next finished
    exact discarded.trans finished

/-- `listen_one` adds one socket, or none if it fails. -/
theorem Inner.listenOne_changes {port : UInt16} (vacant : inner.sockets.Vacant handle) :
    (inner.listenOne port handle).Satisfies fun result =>
      inner.Changes result.1 [] (if result.2.isNone then [(handle, .tcp)] else []) [] := by
  have free := Inner.kindAt_vacant vacant
  have added : inner.Changes (inner.addTcpSocket handle) [] [(handle, .tcp)] [] := Inner.changes_add vacant
  have found : (inner.addTcpSocket handle).kindAt handle = some .tcp := Inner.kindAt_add vacant
  obtain ⟨socket, place⟩ := Inner.getTcp_of_kindAt found
  unfold Inner.listenOne
  dsimp only
  rw [place]
  dsimp only
  cases smoltcp.listen socket port with
  | ok socket =>
    have put : (inner.addTcpSocket handle).Changes ((inner.addTcpSocket handle).put handle (.tcp socket))
        [handle] [] [] := Inner.changes_put found
    exact (added.trans put).untouch free
  | error error =>
    refine (Inner.changes_discard found).bind ?_
    intro next discarded
    have both := (added.trans discarded).untouch free
    refine { both with ledger := fun token => ?_ }
    have ledger := both.ledger token
    simp only [List.nil_append, List.append_nil, total_cons, total_nil] at ledger
    simp only [Option.isNone_some, Bool.false_eq_true, if_false, total_nil]
    omega

theorem scanPool_changes {port : UInt16} {pool : List Handle}
    (present : ∀ handle ∈ pool, inner.kindAt handle = some .tcp) (index : Nat) :
    (scanPool port pool index inner).Satisfies fun result =>
      inner.Changes result.2 pool [] [] ∧
        ∀ found peer, result.1 = some (found, peer) → index ≤ found ∧ found - index < pool.length := by
  induction pool generalizing inner index with
  | nil => exact ⟨Inner.Changes.refl inner, by simp⟩
  | cons handle rest ih =>
    have found := present handle List.mem_cons_self
    obtain ⟨socket, place⟩ := Inner.getTcp_of_kindAt found
    -- The rest of the pool is still there, whatever happened to this socket.
    have onward : ∀ middle : Inner smoltcp, inner.Changes middle [handle] [] [] →
        (scanPool port rest (index + 1) middle).Satisfies fun result =>
          inner.Changes result.2 (handle :: rest) [] [] ∧
            ∀ found peer, result.1 = some (found, peer) → index ≤ found ∧ found - index < (handle :: rest).length := by
      intro middle changed
      have still : ∀ other ∈ rest, middle.kindAt other = some .tcp := fun other member =>
        changed.kindAt (present other (List.mem_cons_of_mem _ member)) rfl
      refine (ih still (index + 1)).mono ?_
      rintro ⟨result, next⟩ ⟨changes, bounds⟩
      refine ⟨changed.trans changes, ?_⟩
      intro found peer same
      have bound := bounds found peer same
      rw [List.length_cons]
      omega
    have untouched : inner.Changes inner [handle] [] [] := (Inner.Changes.refl inner).weaken (by simp)
    unfold scanPool
    rw [place]
    dsimp only
    split
    · refine ⟨untouched.weaken (by simp), ?_⟩
      intro found peer same
      cases same
      simp
    · split
      · split
        · exact onward _ (Inner.changes_put found)
        · exact onward _ untouched
      · exact onward _ untouched

theorem Inner.nextEphemeralPort_changes : inner.Changes inner.nextEphemeralPort.2 [] [] [] :=
  ⟨rfl, rfl, fun _ => rfl, fun _ _ _ => rfl⟩

end Changes

section Everything
variable {smoltcp : Smoltcp} {inner : Inner smoltcp}

theorem Inner.kindAt_interfacePoll (effect : PollEffect smoltcp) (handle : Handle) :
    (inner.interfacePoll effect).kindAt handle = inner.kindAt handle := by
  unfold Inner.kindAt Inner.interfacePoll
  rw [Slab.get_mapIdx]
  cases inner.sockets.get handle with
  | none => rfl
  | some socket => cases socket <;> rfl

theorem Inner.kindAt_shutAll (handle : Handle) : inner.shutAll.kindAt handle = inner.kindAt handle := by
  unfold Inner.kindAt Inner.shutAll
  rw [Slab.get_mapIdx]
  cases inner.sockets.get handle with
  | none => rfl
  | some socket => cases socket <;> rfl

end Everything

section Reclaim
variable {smoltcp : Smoltcp} {before middle after : Inner smoltcp × SocketSlots}

def Closing.slots (entry : Closing) : Nat := if entry.counted then 1 else 0

def Inner.closingTokens (inner : Inner smoltcp) : List Token :=
  inner.closing.map fun entry => (entry.handle, .tcp)

structure Reclaimable (state : Inner smoltcp × SocketSlots) : Prop where
  present : ∀ token, total (owns token) state.1.closingTokens ≤ state.1.present token
  slots : total Closing.slots state.1.closing ≤ state.2.opened

/-- What a reclaim pass does: entries leave `closing` with their sockets and their slots. -/
structure Reclaimed (before after : Inner smoltcp × SocketSlots) : Prop where
  dns : after.1.dns = before.1.dns
  ledger : ∀ token, total (owns token) after.1.closingTokens + before.1.present token =
    total (owns token) before.1.closingTokens + after.1.present token
  frame : ∀ handle, handle ∉ before.1.closing.map Closing.handle → before.1.kindAt handle ≠ none →
    after.1.sockets.get handle = before.1.sockets.get handle
  slots : after.2.opened + total Closing.slots before.1.closing =
    before.2.opened + total Closing.slots after.1.closing
  fewer : after.2.opened ≤ before.2.opened
  underflowed : after.2.underflowed = before.2.underflowed
  sub : after.1.closing ⊆ before.1.closing

theorem Reclaimed.refl (state : Inner smoltcp × SocketSlots) : Reclaimed state state :=
  ⟨rfl, fun _ => rfl, fun _ _ _ => rfl, rfl, Nat.le_refl _, rfl, fun _ member => member⟩

theorem Reclaimed.trans (first : Reclaimed before middle) (second : Reclaimed middle after) :
    Reclaimed before after where
  dns := second.dns.trans first.dns
  ledger token := by
    have left := first.ledger token
    have right := second.ledger token
    omega
  frame handle absent taken := by
    have same := first.frame handle absent taken
    have still : middle.1.kindAt handle ≠ none := by
      unfold Inner.kindAt at taken ⊢
      rw [same]
      exact taken
    rw [second.frame handle ?_ still, same]
    intro member
    obtain ⟨entry, inside, here⟩ := List.mem_map.mp member
    exact absent (List.mem_map.mpr ⟨entry, first.sub inside, here⟩)
  slots := by
    have left := first.slots
    have right := second.slots
    omega
  fewer := Nat.le_trans second.fewer first.fewer
  underflowed := second.underflowed.trans first.underflowed
  sub := fun _ member => first.sub (second.sub member)

theorem Reclaimed.reclaimable (reclaimed : Reclaimed before after) (able : Reclaimable before) :
    Reclaimable after where
  present token := by
    have ledger := reclaimed.ledger token
    have present := able.present token
    omega
  slots := by
    have slots := reclaimed.slots
    have bound := able.slots
    omega

theorem reclaimed_entry {inner next : Inner smoltcp} {slots : SocketSlots} {index : Nat} {entry : Closing}
    (able : Reclaimable (inner, slots)) (found : inner.closing[index]? = some entry)
    (removed : inner.Changes next [entry.handle] [] [(entry.handle, .tcp)]) :
    Reclaimed (inner, slots) ({ next with closing := swapRemove next.closing index },
      if entry.counted then slots.release else slots) := by
  have shuffled : (entry :: swapRemove inner.closing index).Perm inner.closing := swapRemove_perm found
  have counts := total_perm Closing.slots shuffled
  have bound := able.slots
  rw [total_cons] at counts
  refine ⟨removed.dns, ?_, ?_, ?_, ?_, ?_, ?_⟩
  · intro token
    have ledger := removed.ledger token
    have tokens := total_perm (owns token) (shuffled.map fun entry => (entry.handle, Kind.tcp))
    simp only [List.map_cons, total_cons, total_nil] at tokens ledger
    have present : Inner.present { next with closing := swapRemove next.closing index } token =
        next.present token := rfl
    simp only [Inner.closingTokens, removed.closing]
    rw [removed.closing] at present
    omega
  · intro handle absent taken
    refine removed.frame handle ?_ taken
    intro same
    rw [List.mem_singleton] at same
    subst same
    exact absent (List.mem_map.mpr ⟨entry, List.mem_of_getElem? found, rfl⟩)
  · dsimp only
    rw [removed.closing]
    cases counted : entry.counted with
    | false =>
      have nothing : entry.slots = 0 := by simp [Closing.slots, counted]
      simp only [Bool.false_eq_true, if_false]
      omega
    | true =>
      have one : entry.slots = 1 := by simp [Closing.slots, counted]
      have positive : slots.opened ≠ 0 := by dsimp only at bound; omega
      simp only [if_true, SocketSlots.release, if_neg positive]
      dsimp only at bound
      omega
  · dsimp only
    split
    · next counted =>
      have one : entry.slots = 1 := by simp [Closing.slots, counted]
      have positive : slots.opened ≠ 0 := by dsimp only at bound; omega
      simp only [SocketSlots.release, if_neg positive]
      omega
    · exact Nat.le_refl _
  · dsimp only
    split
    · next counted =>
      have one : entry.slots = 1 := by simp [Closing.slots, counted]
      have positive : slots.opened ≠ 0 := by dsimp only at bound; omega
      simp only [SocketSlots.release, if_neg positive]
    · rfl
  · intro other member
    dsimp only at member
    rw [removed.closing] at member
    exact shuffled.subset (List.mem_cons_of_mem _ member)

theorem reclaimLoop_reclaimed (now : Nat) (underPressure : Bool) (rounds index : Nat)
    (state : Inner smoltcp × SocketSlots) (able : Reclaimable state) :
    (reclaimLoop now underPressure rounds index state).Satisfies (Reclaimed state) := by
  induction rounds generalizing index state with
  | zero => exact Reclaimed.refl state
  | succ rounds ih =>
    obtain ⟨inner, slots⟩ := state
    unfold reclaimLoop
    cases found : inner.closing[index]? with
    | none => exact Reclaimed.refl _
    | some entry =>
      have token := able.present (entry.handle, .tcp)
      have held : 0 < total (owns (entry.handle, .tcp)) inner.closingTokens := by
        have member : inner.closingTokens[index]? = some (entry.handle, .tcp) := by
          simp [Inner.closingTokens, found]
        have bound := le_total (owns (entry.handle, .tcp)) member
        rw [owns_self] at bound
        exact bound
      have taken : 0 < inner.present (entry.handle, .tcp) := Nat.lt_of_lt_of_le held token
      have kind : inner.kindAt entry.handle = some .tcp := Inner.kindAt_of_present taken
      obtain ⟨socket, place⟩ := Inner.getTcp_of_kindAt kind
      dsimp only
      rw [place]
      dsimp only
      split
      · exact ih (index + 1) (inner, slots) able
      · have removes : (if finishedClosing smoltcp socket underPressure = true then inner.discard entry.handle
            else inner.abortDiscard entry.handle).Satisfies
              fun next => inner.Changes next [entry.handle] [] [(entry.handle, .tcp)] := by
          split
          · exact Inner.changes_discard kind
          · exact Inner.abortDiscard_changes kind
        refine removes.bind ?_
        intro next removed
        have first := reclaimed_entry able found removed
        exact (ih index _ (first.reclaimable able)).mono fun final second => first.trans second

theorem reclaimFinished_reclaimed (underPressure : Bool) {state : Inner smoltcp × SocketSlots}
    (able : Reclaimable state) : (reclaimFinished underPressure state).Satisfies (Reclaimed state) :=
  reclaimLoop_reclaimed _ _ _ _ state able

end Reclaim

end ProxyTunnels.Wireguard
