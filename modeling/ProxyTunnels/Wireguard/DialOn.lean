import ProxyTunnels.Provider.Slot
import ProxyTunnels.Wireguard.Stack
import ProxyTunnels.Wireguard.Turns

/-! One dial on a tunnel that is up.

`dial_on` tries the resolved addresses in turn. Whether a failed dial is blamed on the tunnel
is read off the text of the last error alone, so it depends on the order of the addresses when
some were silent and others were not.
-/

set_option autoImplicit false

namespace ProxyTunnels.Wireguard
open Machine Provider

inductive Reply where
  | connected
  | refused
  | timedOut
  | unopened (error : ConnectError)
  | atCapacity
  deriving DecidableEq, Repr

/-- The error `WgStack::connect` reports. -/
def Reply.error (remote : SocketAddr) : Reply → Option TunnelError
  | .connected => none
  | .refused => some (dialError remote "the far side refused the connection")
  | .timedOut => some (dialError remote "the tunnel did not open a connection in time")
  | .unopened error => some (dialError remote (connectErrorDetail error))
  | .atCapacity => some atCapacityError

structure Target where
  octets : List UInt8
  reply : Reply
  deriving DecidableEq, Repr

/-- The texts `is_silence` looks for. -/
def namesTimeout (detail : String) : Bool :=
  detail.toList.tails.any fun rest => "in time".toList.isPrefixOf rest

def isSilence : TunnelError → Bool
  | .dial _ _ detail => namesTimeout detail
  | _ => false

def relabel (error : TunnelError) (host : String) (port : UInt16) : TunnelError :=
  match error with
  | .dial _ _ detail => .dial host port detail
  | other => other

/-- The loop of `dial_on`: the address that connected, or the last error. -/
def connectEach (port : UInt16) : List Target → Option TunnelError → Except (Option TunnelError) SocketAddr
  | [], last => .error last
  | target :: rest, _ =>
      match target.reply.error ⟨target.octets, port⟩ with
      | none => .ok ⟨target.octets, port⟩
      | some error => connectEach port rest (some error)

/-- A silence might be the tunnel's or the destination's; anything else is the destination's. -/
def blame (error : TunnelError) : DialResult := if isSilence error then .tunnel error else .destination error

def dialOn (host : String) (port : UInt16) (resolved : Except TunnelError (List Target)) : DialResult :=
  match resolved with
  | .error error => .destination (relabel error host port)
  | .ok targets =>
      match connectEach port targets none with
      | .ok _ => .connected
      | .error last => blame (last.getD (.dial host port "the name resolved to no usable address"))

def blamesTunnel : DialResult → Bool
  | .tunnel _ => true
  | _ => false

section Classification
variable (host : String) (port : UInt16) {targets : List Target}

theorem isSilence_of_error {reply : Reply} {remote : SocketAddr} {error : TunnelError}
    (reported : reply.error remote = some error) : isSilence error = decide (reply = .timedOut) := by
  cases reply with
  | connected => cases reported
  | refused =>
    cases reported
    exact (by decide +kernel : namesTimeout "the far side refused the connection" = false)
  | timedOut =>
    cases reported
    exact (by decide +kernel : namesTimeout "the tunnel did not open a connection in time" = true)
  | unopened failure =>
    cases reported
    have unnamed : namesTimeout (connectErrorDetail failure) = false := by cases failure <;> decide +kernel
    exact unnamed
  | atCapacity =>
    cases reported
    rfl

theorem blamesTunnel_blame (error : TunnelError) : blamesTunnel (blame error) = isSilence error := by
  unfold blame
  split
  · next silent => rw [silent]; rfl
  · next answered => exact (Bool.eq_false_iff.mpr answered).symm

theorem Reply.error_of_failed {reply : Reply} (failed : reply ≠ .connected) (remote : SocketAddr) :
    ∃ error, reply.error remote = some error := by
  cases reply with
  | connected => exact absurd rfl failed
  | refused => exact ⟨_, rfl⟩
  | timedOut => exact ⟨_, rfl⟩
  | unopened error => exact ⟨_, rfl⟩
  | atCapacity => exact ⟨_, rfl⟩

theorem connectEach_connected (last : Option TunnelError) {target : Target} (member : target ∈ targets)
    (connects : target.reply = .connected) : ∃ remote, connectEach port targets last = .ok remote := by
  induction targets generalizing last with
  | nil => exact absurd member List.not_mem_nil
  | cons first rest ih =>
    unfold connectEach
    split
    · exact ⟨_, rfl⟩
    · next error reported =>
      rcases List.mem_cons.mp member with rfl | later
      · rw [connects] at reported
        cases reported
      · exact ih (some error) later

theorem connectEach_failed (last : Option TunnelError) (front : List Target) (final : Target)
    (failed : ∀ target ∈ front ++ [final], target.reply ≠ .connected) :
    ∃ error, final.reply.error ⟨final.octets, port⟩ = some error ∧
      connectEach port (front ++ [final]) last = .error (some error) := by
  induction front generalizing last with
  | nil =>
    obtain ⟨error, reported⟩ := Reply.error_of_failed (failed final List.mem_cons_self) ⟨final.octets, port⟩
    refine ⟨error, reported, ?_⟩
    rw [List.nil_append, connectEach, reported]
    rfl
  | cons first rest ih =>
    obtain ⟨error, reported⟩ := Reply.error_of_failed (failed first List.mem_cons_self) ⟨first.octets, port⟩
    rw [List.cons_append, connectEach, reported]
    exact ih (some error) fun target member => failed target (List.mem_cons_of_mem _ member)

theorem failed_of_dialOn {host : String} {port : UInt16} (failed : dialOn host port (.ok targets) ≠ .connected) :
    ∀ target ∈ targets, target.reply ≠ .connected := by
  intro target member connects
  obtain ⟨remote, connected⟩ := connectEach_connected port none member connects
  refine failed ?_
  unfold dialOn
  dsimp only
  rw [connected]

theorem blamesTunnel_dialOn (front : List Target) (final : Target)
    (failed : ∀ target ∈ front ++ [final], target.reply ≠ .connected) :
    dialOn host port (.ok (front ++ [final])) ≠ .connected ∧
      blamesTunnel (dialOn host port (.ok (front ++ [final]))) = decide (final.reply = .timedOut) := by
  obtain ⟨error, reported, ends⟩ := connectEach_failed port none front final failed
  have blamed : dialOn host port (.ok (front ++ [final])) = blame error := by
    unfold dialOn
    dsimp only
    rw [ends]
    rfl
  rw [blamed]
  refine ⟨?_, ?_⟩
  · unfold blame
    split <;> simp
  · rw [blamesTunnel_blame]
    exact isSilence_of_error reported

/-- Time-outs do not come together with other failures. -/
def Unmixed (targets : List Target) : Prop :=
  (∀ target ∈ targets, target.reply = .timedOut) ∨ ∀ target ∈ targets, target.reply ≠ .timedOut

theorem blamesTunnel_of_unmixed (unmixed : Unmixed targets)
    (failed : ∀ target ∈ targets, target.reply ≠ .connected) {target : Target} (member : target ∈ targets) :
    dialOn host port (.ok targets) ≠ .connected ∧
      blamesTunnel (dialOn host port (.ok targets)) = decide (target.reply = .timedOut) := by
  obtain ⟨front, final, rfl⟩ := List.eq_nil_or_concat' targets |>.resolve_left (List.ne_nil_of_mem member)
  obtain ⟨fails, blames⟩ := blamesTunnel_dialOn host port front final failed
  refine ⟨fails, blames.trans ?_⟩
  have last : final ∈ front ++ [final] := by simp
  rcases unmixed with silent | answered
  · rw [silent final last, silent target member]
  · rw [decide_eq_false (answered final last), decide_eq_false (answered target member)]

theorem unmixed_of_same_in_every_order (failed : ∀ target ∈ targets, target.reply ≠ .connected)
    (same : ∀ others, others.Perm targets →
      blamesTunnel (dialOn host port (.ok others)) = blamesTunnel (dialOn host port (.ok targets))) :
    Unmixed targets := by
  have put : ∀ target ∈ targets,
      blamesTunnel (dialOn host port (.ok targets)) = decide (target.reply = .timedOut) := by
    intro target member
    obtain ⟨front, back, rfl⟩ := List.append_of_mem member
    have shuffled : (front ++ back ++ [target]).Perm (front ++ target :: back) :=
      (List.perm_append_singleton target _).trans List.perm_middle.symm
    rw [← same _ shuffled]
    exact (blamesTunnel_dialOn host port _ target fun other inside => failed other (shuffled.subset inside)).2
  cases blamed : blamesTunnel (dialOn host port (.ok targets)) with
  | true =>
    refine .inl fun target member => ?_
    have told := put target member
    rw [blamed] at told
    exact of_decide_eq_true told.symm
  | false =>
    refine .inr fun target member => ?_
    have told := put target member
    rw [blamed] at told
    exact of_decide_eq_false told.symm

end Classification

/-- A failed dial is blamed on the tunnel only if no address refused, and no order of the addresses changes
who is blamed, exactly if time-outs do not come together with other failures. -/
theorem only_silence_blames_the_tunnel (host : String) (port : UInt16) (targets : List Target)
    (nonempty : targets ≠ []) (failed : dialOn host port (.ok targets) ≠ .connected) :
    ((∀ error, dialOn host port (.ok targets) = .tunnel error → ∀ target ∈ targets, target.reply ≠ .refused) ∧
      ∀ others, others.Perm targets → dialOn host port (.ok others) ≠ .connected ∧
        blamesTunnel (dialOn host port (.ok others)) = blamesTunnel (dialOn host port (.ok targets))) ↔
      Unmixed targets := by
  have fails := failed_of_dialOn failed
  constructor
  · rintro ⟨-, reordered⟩
    exact unmixed_of_same_in_every_order host port fails fun others shuffled => (reordered others shuffled).2
  · intro unmixed
    constructor
    · intro error blamed target member refused
      have told := (blamesTunnel_of_unmixed host port unmixed fails member).2
      rw [blamed, refused] at told
      cases told
    · intro others shuffled
      obtain ⟨target, member⟩ := List.exists_mem_of_ne_nil targets nonempty
      have reordered : Unmixed others := unmixed.imp
        (fun silent other inside => silent other (shuffled.subset inside))
        fun answered other inside => answered other (shuffled.subset inside)
      have again := blamesTunnel_of_unmixed host port reordered
        (fun other inside => fails other (shuffled.subset inside)) (shuffled.symm.subset member)
      have before := blamesTunnel_of_unmixed host port unmixed fails member
      exact ⟨again.1, again.2.trans before.2.symm⟩

theorem only_silence_blames_the_tunnel_two_silent :
    blamesTunnel (dialOn "example.org" 443 (.ok [⟨[10, 0, 0, 2], .timedOut⟩, ⟨[10, 0, 0, 1], .timedOut⟩])) =
      blamesTunnel (dialOn "example.org" 443 (.ok [⟨[10, 0, 0, 1], .timedOut⟩, ⟨[10, 0, 0, 2], .timedOut⟩])) :=
  (((only_silence_blames_the_tunnel "example.org" 443
    [⟨[10, 0, 0, 1], .timedOut⟩, ⟨[10, 0, 0, 2], .timedOut⟩] (by simp) (by decide +kernel)).mpr
    (.inl (by decide))).2 _ (List.Perm.swap _ _ [])).2

/-- An address that refuses proves that the tunnel works, and yet a silent one after it has the
failure blamed on the tunnel; in the other order the destination is blamed. -/
theorem silence_after_refusal_blames_the_tunnel :
    dialOn "example.org" 443 (.ok [⟨[10, 0, 0, 1], .refused⟩, ⟨[10, 0, 0, 2], .timedOut⟩]) =
        .tunnel (dialError ⟨[10, 0, 0, 2], 443⟩ "the tunnel did not open a connection in time") ∧
      dialOn "example.org" 443 (.ok [⟨[10, 0, 0, 2], .timedOut⟩, ⟨[10, 0, 0, 1], .refused⟩]) =
        .destination (dialError ⟨[10, 0, 0, 1], 443⟩ "the far side refused the connection") := by
  decide +kernel

section Connects
variable {smoltcp : Smoltcp} {remote : SocketAddr}

/-- An error that a connect to `remote` ends with. -/
def Reported (remote : SocketAddr) (error : Option TunnelError) : Prop :=
  ∀ reason, error = some reason → ∃ reply : Reply, reply.error remote = some reason

theorem Reply.reported (reply : Reply) : Reported remote (reply.error remote) := fun _ same => ⟨reply, same⟩

theorem reported_none : Reported remote none := nofun

/-- A connect to `remote`, the stream it gave, or what is left of either. -/
def Actor.Connects (remote : SocketAddr) : Actor smoltcp → Prop
  | .connecting towards (.discard _ _ error) | .connecting towards (.release error) =>
      towards = remote ∧ Reported remote error
  | .connecting towards _ => towards = remote
  | .ended error => Reported remote error
  | .stream _ _ _ _ _ | .retiring _ => True
  | _ => False

variable {shared : Shared smoltcp}

theorem Rests.connects {actor new : Actor smoltcp} {input : Input} (rests : Rests shared actor input new)
    (connects : actor.Connects remote) : new.Connects remote := by
  cases rests with
  | refused place refused =>
    cases connects
    exact ⟨rfl, Reply.refused.reported⟩
  | timedOut =>
    cases connects
    exact ⟨rfl, Reply.timedOut.reported⟩
  | dialDropped => exact ⟨connects, reported_none⟩
  | unanswered => exact connects
  | connected | unread | unwritten | flushed | dropped => exact trivial
  | _ => exact connects.elim

theorem stepActor_connects {actor : Actor smoltcp} {input : Input} {effect : Effect smoltcp}
    (connects : actor.Connects remote) (taken : shared.stepActor actor input = .next effect) :
    effect.actor.Connects remote := by
  cases turns_of_step taken with
  | rests rests => exact rests.connects connects
  | @dialClaims towards point fresh next claimed claiming =>
    cases claimed with
    | goOn point => exact connects
    | got => exact connects
    | refused => exact Reply.atCapacity.reported
  | opens => exact connects
  | @unopened towards fresh port inner error vacant drawn =>
    cases connects
    exact ⟨rfl, (Reply.unopened error).reported⟩
  | discards | aborts => exact connects
  | dialReleases => exact connects.2
  | reads | writes | shutsDown | closes => exact trivial
  | retires => exact reported_none
  | _ => exact connects.elim

theorem Actor.Stirs.connects {actor other : Actor smoltcp} (stirs : actor.Stirs other)
    (connects : actor.Connects remote) : other.Connects remote := by
  cases stirs <;> exact connects

/-- The actor at a place of the table connects to `remote`. -/
def Stack.ConnectsAt (index : Nat) (remote : SocketAddr) (stack : Stack smoltcp) : Prop :=
  ∃ actor, stack.actors[index]? = some actor ∧ actor.Connects remote

theorem Stack.connectsAt_step {stack next : Stack smoltcp} {action : Action smoltcp} {index : Nat}
    (connects : stack.ConnectsAt index remote) (taken : stack.step action = .next next) :
    next.ConnectsAt index remote := by
  obtain ⟨actor, found, here⟩ := connects
  have inside : index < stack.actors.length := (List.getElem?_eq_some_iff.mp found).1
  cases Stack.moves_of_step taken with
  | call call => exact ⟨actor, by rw [List.getElem?_append_left inside, found], here⟩
  | @act place input mover effect there stepped =>
    by_cases same : place = index
    · subst same
      obtain rfl := Option.some.inj (found.symm.trans there)
      exact ⟨effect.actor, getElem?_set_append_self found _, stepActor_connects here stepped⟩
    · exact ⟨actor, getElem?_set_append_ne found same, here⟩
  | elapse => exact ⟨actor, found, here⟩
  | @poll effect woken => exact ⟨actor.wake woken, by simp [found], (actor.wake_stirs woken).connects here⟩
  | flag => exact ⟨actor, found, here⟩
  | shut => exact ⟨actor.wake stack.shared.inner.shutWoken, by simp [found], (actor.wake_stirs _).connects here⟩
  | notify => exact ⟨actor.notify, by simp [found], actor.notify_stirs.connects here⟩

/-- In every run of the stack, a connect that fails ends with the error of one of the replies. -/
theorem connect_error_of_run {stack final : Stack smoltcp} {actions : List (Action smoltcp)} {index : Nat}
    {error : TunnelError} (run : Run Stack.step stack actions final)
    (called : stack.actors[index]? = some (.connecting remote (.claim .load)))
    (ended : final.actors[index]? = some (.ended (some error))) :
    ∃ reply : Reply, reply.error remote = some error := by
  have kept : final.ConnectsAt index remote := by
    refine Run.preserves ?_ run ⟨_, called, rfl⟩
    intro state action next connects taken
    exact Stack.connectsAt_step connects taken
  obtain ⟨actor, found, connects⟩ := kept
  obtain rfl := Option.some.inj (ended.symm.trans found)
  exact connects error rfl

end Connects

end ProxyTunnels.Wireguard
