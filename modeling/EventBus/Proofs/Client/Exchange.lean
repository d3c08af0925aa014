import EventBus.Proofs.Client.Uplink
import EventBus.Proofs.Reactor.Trunks

/-!
# Clients of a reactor

A client whose peer is served by a reactor. All that is not up to the client is laid down in advance: what the reactor
does during each operation, and how the network carries that out. So what holds whatever is laid down holds of every
reactor and every network.

* `Station`: a reactor after some moves, and what the client did on its own connections.
* `Exchange.environment`: the surroundings of the client.
* `Exchange.uplink`: these are an uplink.
-/

namespace EventBus

variable {τ : Type} {service : FrameService τ} {config : Config} {initial : τ}

/-- A reactor that has come about by some moves, with some connections of a client. -/
structure Station (service : FrameService τ) (config : Config) (initial : τ) where
  moves : List Reactor.Move
  reactor : Reactor (Noted τ)
  ran : Reactor.Ran service.notedAll.toService Noted.Stirs config { state := initial } moves reactor
  few : reactor.sockets.size < UInt64.size
  near : Handle → Option NearEnd
  known : ∀ place : Nat, (near place).isSome → place < reactor.sockets.size
  /-- The peer was sent what the client has written. -/
  sent : ∀ place here, near place = some here → here.sent.flatten = Reactor.sent place moves

namespace Reactor

/-- Somebody sends on a connection of the client. -/
def Move.isFrom (near : Handle → Option NearEnd) : Move → Bool
  | .sends socket _ => (near socket).isSome
  | _ => false

/-- A move that is not from a peer of the client sends nothing for it. -/
theorem Move.sentBy_eq_nil {near : Handle → Option NearEnd} {move : Move} (hother : move.isFrom near = false) {place : Nat}
    (hplace : (near place).isSome) : move.sentBy place = [] := by
  cases move with
  | sends socket bytes =>
    refine if_neg fun hsame => ?_
    subst hsame
    exact absurd (hplace.symm.trans hother) Bool.noConfusion
  | _ => rfl

end Reactor

namespace Station

variable {station : Station service config initial}

/-- A reactor that was just started. -/
def start (service : FrameService τ) (config : Config) (initial : τ) : Station service config initial where
  moves := []
  reactor := .start config { state := initial }
  ran := .start
  few := Nat.zero_lt_succ _
  near _ := none
  known := nofun
  sent := nofun

/-- What the client sees. -/
def trunk (station : Station service config initial) : Trunk τ :=
  station.reactor.trunk station.near

/-- The reactor of a station is one that has come about. -/
theorem watched (station : Station service config initial) : Reactor.Watched station.moves station.reactor :=
  station.ran.watched station.few

/-! ## What goes on without the client -/

/-- What goes on at a station. -/
inductive Event (τ : Type) where
  | move (move : Reactor.Move)
  /-- The state of the service is changed from outside. -/
  | stir (state : τ)

/-- A move of the reactor, if it is possible and not up to the client. -/
def go (move : Reactor.Move) (station : Station service config initial) : Station service config initial :=
  match hstep : station.reactor.step? service.notedAll.toService move with
  | none => station
  | some reactor =>
    if hok : reactor.sockets.size < UInt64.size ∧ move.isFrom station.near = false then
      { station with
        moves := station.moves ++ [move]
        reactor
        ran := station.ran.step hstep
        few := hok.1
        known := fun place hplace =>
          Nat.lt_of_lt_of_le (station.known place hplace) (Reactor.step?_tells hstep).sockets_le
        sent := fun place here hhere => by
          rw [Reactor.sent_append_singleton, Reactor.Move.sentBy_eq_nil hok.2 (by rw [hhere]; rfl), List.append_nil]
          exact station.sent place here hhere }
    else station

/-- One thing that happens at the reactor while the client does something else. -/
def pass (station : Station service config initial) : Event τ → Station service config initial
  | .move move => station.go move
  | .stir state => { station with
      reactor := { station.reactor with state := station.reactor.state.setState state }
      ran := station.ran.stir ⟨state, rfl⟩
      few := station.few
      known := station.known
      sent := station.sent }

/-- A move of the reactor is moves of the trunk. If it is not possible, nothing happens. -/
theorem moves_go (move : Reactor.Move) (station : Station service config initial) :
    Trunk.Moves service station.trunk (station.go move).trunk := by
  unfold go
  -- a move that is not possible, or for which there are too many peers, is left out
  split
  · exact .refl
  · next reactor hstep =>
    split
    · next hok =>
      refine station.watched.moves_step ((station.ran.step hstep).watched hok.1) station.known (fun place here hhere => ?_) hstep
      rw [Reactor.sent_append_singleton, Reactor.Move.sentBy_eq_nil hok.2 (by rw [hhere]; rfl), List.append_nil]
      exact station.sent place here hhere
    · exact .refl

theorem moves_pass (station : Station service config initial) (event : Event τ) :
    Trunk.Moves service station.trunk (station.pass event).trunk := by
  cases event with
  | move move => exact station.moves_go move
  | stir state => exact Reactor.Watched.moves_stir ⟨state, rfl⟩

/-- Whatever happens at the reactor, and however much, is moves of the trunk. -/
theorem moves_foldl_pass (events : List (Event τ)) (station : Station service config initial) :
    Trunk.Moves service station.trunk (events.foldl pass station).trunk := by
  induction events generalizing station with
  | nil => exact .refl
  | cons event events ih => exact (station.moves_pass event).trans (ih (station.pass event))

/-! ## What the client does -/

/-- The client does something at its end of a connection. -/
def change (place : Nat) (change : NearEnd → NearEnd) (near : Handle → Option NearEnd) : Handle → Option NearEnd :=
  Function.update near place ((near place).map change)

/-- What the client does at its end is seen on the trunk as its own act. -/
theorem trunk_change (reactor : Reactor (Noted τ)) (near : Handle → Option NearEnd) (place : Nat)
    (act : NearEnd → NearEnd) : reactor.trunk (change place act near) = (reactor.trunk near).act place act := by
  unfold change
  cases hnear : near place with
  | none =>
    have hsame : Function.update near place ((none : Option NearEnd).map act) = near :=
      Function.update_eq_self_iff.mpr hnear.symm
    have hchannel : (reactor.trunk near).channel? place = none := congrArg (Option.map _) hnear
    unfold Trunk.act
    rw [hsame, hchannel]
  | some here =>
    rw [Trunk.act_eq (Reactor.channel?_trunk hnear)]
    exact Reactor.trunk_update near place (act here) reactor

/-- A connection is opened, if the reactor still listens. -/
def dial? (station : Station service config initial) : Option (Station service config initial) :=
  if hok : station.reactor.lifecycle ≠ .finished ∧ station.reactor.sockets.size + 1 < UInt64.size then
    some
      { moves := station.moves ++ [.dial]
        reactor := { station.reactor with
          sockets := station.reactor.sockets.push {}
          backlog := station.reactor.backlog ++ [station.reactor.sockets.size] }
        ran := station.ran.step (by
          show station.reactor.outerStep? .dial = _
          exact if_neg hok.1)
        few := by
          rw [Array.size_push]
          exact hok.2
        near := Function.update station.near station.reactor.sockets.size (some {})
        known := fun place hplace => by
          rw [Array.size_push]
          by_cases hsame : place = station.reactor.sockets.size
          · omega
          · rw [Function.update_of_ne hsame] at hplace
            exact Nat.lt_succ_of_lt (station.known place hplace)
        sent := fun place here hhere => by
          rw [Reactor.sent_append_singleton]
          show _ = Reactor.sent place station.moves ++ []
          rw [List.append_nil]
          by_cases hsame : place = station.reactor.sockets.size
          · subst hsame
            rw [Function.update_self] at hhere
            obtain rfl := Option.some.inj hhere
            exact (station.watched.unsent _ (Nat.le_refl _)).symm
          · rw [Function.update_of_ne hsame] at hhere
            exact station.sent place here hhere }
  else none

/-- The place of a new peer was not in use, and a new connection is what is there afterwards. -/
theorem trunk_dial? {after : Station service config initial} (h : station.dial? = some after) :
    station.trunk.channel? station.reactor.sockets.size = none
      ∧ station.trunk.peer.begun station.reactor.sockets.size = []
      ∧ station.trunk.peer.answered station.reactor.sockets.size = []
      ∧ after.trunk = station.trunk.put station.reactor.sockets.size (.opened (Handle.token station.reactor.sockets.size)) := by
  unfold dial? at h
  split at h
  · next hok =>
    cases h
    -- only numbers of sockets there are have a near end, and this one is the next
    have hnone : station.near station.reactor.sockets.size = none := by
      cases hnear : station.near station.reactor.sockets.size with
      | none => rfl
      | some here => exact absurd (station.known _ (by rw [hnear]; rfl)) (Nat.lt_irrefl _)
    obtain ⟨hbegun, hanswered⟩ := station.watched.unnoted _ (Nat.le_refl _)
    refine ⟨congrArg (Option.map _) hnone, hbegun, hanswered, ?_⟩
    unfold trunk
    have hview := Reactor.sameView_dial station.reactor
    rw [Reactor.trunk_update, Reactor.trunk_eq_of_sameView fun place _ => hview place, (hview _).channel_eq,
      station.watched.channel_unaccepted hok.2]
    rfl
  · cases h

/-- Where the near ends were changed, there was one before. -/
theorem exists_of_change {near : Handle → Option NearEnd} {place other : Nat} {act : NearEnd → NearEnd} {here : NearEnd}
    (h : change place act near other = some here) :
    ∃ before, near other = some before ∧ here = if other = place then act before else before := by
  unfold change at h
  by_cases hsame : other = place
  · subst hsame
    rw [Function.update_self] at h
    obtain ⟨before, hbefore, rfl⟩ := Option.map_eq_some_iff.mp h
    exact ⟨before, hbefore, (if_pos rfl).symm⟩
  · rw [Function.update_of_ne hsame] at h
    exact ⟨here, h, (if_neg hsame).symm⟩

theorem isSome_of_change {near : Handle → Option NearEnd} {place other : Nat} {act : NearEnd → NearEnd}
    (h : (change place act near other).isSome) : (near other).isSome := by
  obtain ⟨here, hhere⟩ := Option.isSome_iff_exists.mp h
  obtain ⟨before, hbefore, -⟩ := exists_of_change hhere
  rw [hbefore]
  rfl

/-- The client does something that sends nothing. -/
def act (place : Nat) (act : NearEnd → NearEnd) (hact : ∀ near, (act near).sent.flatten = near.sent.flatten)
    (station : Station service config initial) : Station service config initial :=
  { station with
    near := change place act station.near
    known := fun other hother => station.known other (isSome_of_change hother)
    sent := fun other here hhere => by
      obtain ⟨before, hbefore, rfl⟩ := exists_of_change hhere
      rw [← station.sent other before hbefore]
      split
      · exact hact before
      · rfl }

/-- The socket of the client takes bytes. -/
def canSend (place : Nat) (station : Station service config initial) : Bool :=
  station.reactor.sockets[place]?.any fun socket => !socket.ended && !socket.closed

/-- The client sends as long as the connection lets it. -/
def send (place : Nat) (bytes : Bytes) (station : Station service config initial) : Station service config initial :=
  if hcan : station.canSend place then
    { moves := station.moves ++ [.sends place bytes]
      reactor := station.reactor.modifySocket place fun socket => { socket with incoming := socket.incoming.push bytes }
      ran := station.ran.step (by
        show station.reactor.outerStep? (.sends place bytes) = _
        exact if_pos hcan)
      few := by
        rw [Reactor.modifySocket, Array.size_modify]
        exact station.few
      near := change place (.send bytes) station.near
      known := fun other hother => by
        rw [Reactor.modifySocket, Array.size_modify]
        exact station.known other (isSome_of_change hother)
      sent := fun other here hhere => by
        obtain ⟨before, hbefore, rfl⟩ := exists_of_change hhere
        rw [Reactor.sent_append_singleton, ← station.sent other before hbefore]
        show _ = _ ++ if place = other then bytes else []
        split
        · next hsame =>
          rw [if_pos hsame.symm, NearEnd.send, List.flatten_append, List.flatten_singleton]
        · next hother => rw [if_neg (Ne.symm hother), List.append_nil] }
  else station.act place (.send []) fun near => by
    rw [NearEnd.send, List.flatten_append]
    exact List.append_nil _

/-- The client has read bytes. -/
def fetch (place : Nat) (bytes : Bytes) : Station service config initial → Station service config initial :=
  act place (.fetch bytes) fun _ => rfl

/-- Bytes that the socket takes are sent. If it takes none, nothing is. -/
theorem trunk_send (place : Nat) (bytes : Bytes) (station : Station service config initial) :
    (station.send place bytes).trunk = station.trunk.act place (.send (if station.canSend place then bytes else [])) := by
  unfold send
  split
  · next hcan =>
    have hview : ∀ other, Reactor.SameView station.reactor (station.reactor.modifySocket place fun socket =>
        { socket with incoming := socket.incoming.push bytes }) other :=
      fun _ => Reactor.sameView_modifySocket place station.reactor fun _ _ => rfl
    unfold trunk
    rw [trunk_change, Reactor.trunk_eq_of_sameView fun other _ => hview other]
    rfl
  · exact trunk_change station.reactor station.near place _

/-- What is read is read from what was written. -/
theorem trunk_fetch (place : Nat) (bytes : Bytes) (station : Station service config initial) :
    (station.fetch place bytes).trunk = station.trunk.act place (.fetch bytes) :=
  trunk_change station.reactor station.near place _

/-- What was written to the client and not found yet. -/
def unfound (place : Nat) (station : Station service config initial) : Bytes :=
  (station.reactor.written place).drop (station.trunk.nearEnd place).read.length

/-- What the client may still find is what was written and not read. -/
theorem unfound_eq {place : Nat} {channel : Channel τ} (hchannel : station.trunk.channel? place = some channel) :
    station.unfound place = channel.written.drop channel.near.read.length := by
  have hnear : station.trunk.near? place = some channel.near := congrArg (Option.map Channel.near) hchannel
  obtain ⟨here, -, rfl⟩ := Option.map_eq_some_iff.mp hchannel
  unfold unfound
  rw [Trunk.nearEnd_eq hnear]
  rfl

end Station

/-! ## The surroundings of a client -/

/-- What goes on during an operation of a client, and how the operation goes. -/
structure Meanwhile (τ : Type) where
  events : List (Station.Event τ) := []
  /-- How it fails, if it does so. -/
  failure : Option IoError := none
  /-- How many bytes a write that fails has sent. -/
  length : Nat := 0
  /-- The sizes of the pieces that arrive; `none` where a read is interrupted. -/
  sizes : List (Option Nat) := []
  ending : Frame.StreamEnd := .fails .wouldBlock

/-- A reactor and the network between it and its client. -/
structure Exchange (service : FrameService τ) (config : Config) (initial : τ) where
  station : Station service config initial
  /-- Operation by operation; behind these nothing happens. -/
  course : List (Meanwhile τ) := []

namespace Exchange

/-- How bytes arrive in pieces of these sizes. -/
def arrivals : List (Option Nat) → Bytes → List Frame.Arrival
  | [], _ => []
  | none :: sizes, bytes => .interrupted :: arrivals sizes bytes
  | some size :: sizes, bytes => .piece (bytes.take size) :: arrivals sizes (bytes.drop size)

variable {exchange after : Exchange service config initial}

/-- What is laid down for the next operation. -/
def next (exchange : Exchange service config initial) : Meanwhile τ :=
  exchange.course.headD {}

/-- The station when the next operation comes to its end. -/
def passed (exchange : Exchange service config initial) : Station service config initial :=
  exchange.next.events.foldl Station.pass exchange.station

/-- The next operation is over. -/
def onward (station : Station service config initial) (exchange : Exchange service config initial) :
    Exchange service config initial :=
  ⟨station, exchange.course.tail⟩

/-- The surroundings of a client: each operation first has the reactor go on, and then it fails or does what
it should. -/
def environment (service : FrameService τ) (config : Config) (initial : τ) :
    Environment (Exchange service config initial) where
  connect _ exchange :=
    match exchange.next.failure, exchange.passed.dial? with
    | none, some station => (.ok exchange.passed.reactor.sockets.size, exchange.onward station)
    | failure, _ => (.error (failure.getD .refused), exchange.onward exchange.passed)
  write handle bytes exchange :=
    match exchange.next.failure with
    | some e => (.error e, exchange.onward (exchange.passed.send handle (bytes.take exchange.next.length)))
    | none =>
      (if exchange.passed.canSend handle then .ok () else .error .brokenPipe,
        exchange.onward (exchange.passed.send handle bytes))
  receive handle _ exchange :=
    let reader : Frame.Reader := ⟨arrivals exchange.next.sizes (exchange.passed.unfound handle), exchange.next.ending⟩
    (reader, exchange.onward (exchange.passed.fetch handle reader.bytes))
  close handle exchange := exchange.onward (exchange.passed.go (.ends handle))
  now _ := .zero

/-- What arrives, in whatever pieces, is a first part of what there is. -/
theorem bytes_arrivals (sizes : List (Option Nat)) (bytes : Bytes) (ending : Frame.StreamEnd) :
    (Frame.Reader.mk (arrivals sizes bytes) ending).bytes <+: bytes := by
  -- on the pieces; an interruption takes no bytes
  induction sizes generalizing bytes with
  | nil => exact List.nil_prefix
  | cons size sizes ih =>
    cases size with
    | none => exact ih bytes
    | some size =>
      have hrest := (List.prefix_append_right_inj (bytes.take size)).mpr (ih (bytes.drop size))
      rw [List.take_append_drop] at hrest
      exact hrest

/-- Whatever is laid down for an operation is moves of the trunk. -/
theorem moves_passed (exchange : Exchange service config initial) :
    Trunk.Moves service exchange.station.trunk exchange.passed.trunk :=
  Station.moves_foldl_pass exchange.next.events exchange.station

/-- A connection that is made has the place of the next peer. -/
theorem connect_ok {endpoint : Endpoint} {handle : Handle}
    (h : (environment service config initial).connect endpoint exchange = (.ok handle, after)) :
    handle = exchange.passed.reactor.sockets.size ∧ exchange.passed.dial? = some after.station := by
  unfold environment at h
  dsimp only at h
  split at h
  · next station hfailure hdial =>
    cases h
    exact ⟨rfl, hdial⟩
  · cases h

/-- A connection that is not made leaves the reactor where it was. -/
theorem connect_error {endpoint : Endpoint} {e : IoError}
    (h : (environment service config initial).connect endpoint exchange = (.error e, after)) :
    after.station = exchange.passed := by
  unfold environment at h
  dsimp only at h
  split at h
  · cases h
  · cases h
    rfl

/-- A write sends a first part of its bytes, all of them if it succeeds. -/
theorem exists_sent_of_write {handle : Handle} {bytes : Bytes} {result : Except IoError Unit}
    (h : (environment service config initial).write handle bytes exchange = (result, after)) :
    ∃ front, front <+: bytes ∧ (result = .ok () → front = bytes)
      ∧ after.station.trunk = exchange.passed.trunk.act handle (.send front) := by
  unfold environment at h
  dsimp only at h
  split at h
  · cases h
    -- the write is said to fail, yet some of the bytes may be on their way
    refine ⟨_, ?_, nofun, Station.trunk_send handle _ exchange.passed⟩
    split
    · exact List.take_prefix _ bytes
    · exact List.nil_prefix
  · cases h
    refine ⟨_, ?_, fun hok => ?_, Station.trunk_send handle bytes exchange.passed⟩
    · split
      · exact List.prefix_refl bytes
      · exact List.nil_prefix
    · split at hok
      · next hcan => exact if_pos hcan
      · cases hok

/-- A client of a reactor has an uplink to its service. -/
def uplink (service : FrameService τ) (config : Config) (initial : τ) :
    Uplink service (environment service config initial) where
  trunk exchange := exchange.station.trunk
  connects {endpoint exchange handle after} h := by
    obtain ⟨rfl, hdial⟩ := connect_ok h
    obtain ⟨hnone, hbegun, hanswered, htrunk⟩ := Station.trunk_dial? hdial
    exact ⟨exchange.passed.trunk, _, exchange.moves_passed, hnone, hbegun, hanswered, htrunk⟩
  connects_not {endpoint exchange e after} h := by
    rw [connect_error h]
    exact exchange.moves_passed
  writes {handle bytes exchange result after} _ h := by
    obtain ⟨front, hfront, hall, htrunk⟩ := exists_sent_of_write h
    exact ⟨exchange.passed.trunk, front, exchange.moves_passed, hfront, hall, htrunk⟩
  receives {handle limit exchange reader after} _ h := by
    cases h
    refine ⟨exchange.passed.trunk, exchange.moves_passed, fun channel hchannel => ?_, Station.trunk_fetch handle _ _⟩
    rw [← Station.unfound_eq hchannel]
    exact bytes_arrivals _ _ _
  closes handle exchange := exchange.moves_passed.trans (Station.moves_go _ _)

end Exchange

end EventBus
