import BlockWire.Client.Step
import BlockWire.Network.Record

/-!
# Views of a network

A client learns of a network only what its four actions tell.  A network that
carries something along, a record or a note, therefore serves a client exactly
as the network inside does.

Such a network has a view: a map to the network inside that goes along with
each action.  The view then goes along with everything that is made of the
actions, up to whole runs of steps.
-/

namespace BlockWire

variable {μ ν : Type} [Network μ] [Network ν]

/-- A map between networks that goes along with each action: the network that
is seen gives the same answer and is seen again afterwards. -/
structure Network.IsView (view : μ → ν) : Prop where
  clock (network : μ) :
    Network.clock (view network) = (Network.clock network).map id view
  dial (host : String) (port : UInt16) (patience : Patience)
      (network : μ) :
    Network.dial host port patience (view network) =
      (Network.dial host port patience network).map id view
  hear (connection : ConnectionId) (bytes : Bytes) (network : μ) :
    Network.hear connection bytes (view network) =
      (Network.hear connection bytes network).map id view
  hangUp (connection : ConnectionId) (network : μ) :
    Network.hangUp connection (view network) =
      view (Network.hangUp connection network)

/-! ## Networks inside other ones -/

/-- A network is also seen inside itself with a note added to it. -/
theorem Network.isView_note {π : Type} (note : π) :
    Network.IsView fun network : ν => (network, note) where
  clock _ := rfl
  dial _ _ _ _ := rfl
  hear _ _ _ := rfl
  hangUp _ _ := rfl

theorem Recorded.isView_network :
    Network.IsView (Recorded.network : Recorded ν → ν) where
  clock _ := rfl
  dial host port patience recorded := by
    show Network.dial host port patience recorded.network =
      Prod.map id Recorded.network (Network.dial host port patience recorded)
    simp only [Network.dial]
    rcases Network.dial host port patience recorded.network with
      ⟨_ | _, _⟩ <;> rfl
  hear _ _ _ := rfl
  hangUp _ _ := rfl

/-! ## What is made of the actions -/

namespace Network.IsView

variable {view : μ → ν}

theorem linkDial
    (isView : IsView view)
    (endpoint : Endpoint) (deadline : Deadline) (network : μ) :
    Link.dial endpoint deadline (view network) =
      (Link.dial endpoint deadline network).map id view := by
  simp only [Link.dial]
  split
  · rfl
  · rw [isView.clock]
    simp only [Prod.map_fst, Prod.map_snd, id_eq]
    cases deadline.patience (Network.clock network).1 with
    | error fault => rfl
    | ok patience => exact isView.dial _ _ _ _

theorem establish
    (isView : IsView view) (endpoint : Endpoint) (network : μ) :
    Link.establish endpoint (view network) =
      (Link.establish endpoint network).map id view := by
  simp only [Link.establish, isView.clock, Prod.map_fst, Prod.map_snd, id_eq]
  cases Deadline.start endpoint.timeout (Network.clock network).1 with
  | none => rfl
  | some deadline =>
      simp only [isView.linkDial]
      rcases Link.dial endpoint deadline (Network.clock network).2 with
        ⟨_ | _, _⟩ <;> rfl

theorem submit
    (isView : IsView view)
    (request : Request) (link : Link) (network : μ) :
    link.submit request (view network) =
      (link.submit request network).map id (Prod.map id view) := by
  simp only [Link.submit, isView.hear, Prod.map_fst, Prod.map_snd, id_eq]
  rfl

theorem roundTrip
    (isView : IsView view)
    (request : Request) (link : Link) (network : μ) :
    link.roundTrip request (view network) =
      (link.roundTrip request network).map id (Prod.map id view) := by
  simp only [Link.roundTrip, isView.submit]
  rcases link.submit request network with ⟨_ | _, _, _⟩ <;> rfl

theorem connect
    (isView : IsView view) (client : Client) (network : μ) :
    client.connect (view network) =
      (client.connect network).map id (Prod.map id view) := by
  simp only [Client.connect]
  cases client.link? with
  | some link => rfl
  | none =>
      simp only [isView.establish]
      rcases Link.establish client.endpoint network with
        ⟨(_ | _) | _, _⟩ <;> rfl

theorem disconnect
    (isView : IsView view) (client : Client) (network : μ) :
    client.disconnect (view network) =
      (client.disconnect network).map id view := by
  simp only [Client.disconnect]
  cases client.link? with
  | none => rfl
  | some link =>
      simp only [isView.hangUp]
      rfl

theorem send
    (isView : IsView view)
    (request : Request) (client : Client) (network : μ) :
    client.send request (view network) =
      (client.send request network).map id (Prod.map id view) := by
  simp only [Client.send]
  cases client.link? with
  | none => rfl
  | some link =>
      simp only [isView.roundTrip]
      rcases link.roundTrip request network with ⟨_ | _, _, later⟩
      · simp only [Prod.map, id_eq, isView.disconnect]
      · rfl

/-- A step does the same on a network and on what is seen of it. -/
theorem run
    (isView : IsView view)
    (step : Client.Step) (client : Client) (network : μ) :
    step.run client (view network) =
      (step.run client network).map id (Prod.map id view) := by
  cases step with
  | connect =>
      simp only [Client.Step.run, isView.connect]
      rfl
  | disconnect =>
      simp only [Client.Step.run, isView.disconnect]
      rfl
  | call asked =>
      simp only [Client.Step.run, Client.perform, isView.send]
      rcases client.send asked.request network with ⟨_ | _, _, _⟩ <;> rfl
  | send request =>
      simp only [Client.Step.run, isView.send]
      rfl
  | abort => rfl

end Network.IsView

end BlockWire
