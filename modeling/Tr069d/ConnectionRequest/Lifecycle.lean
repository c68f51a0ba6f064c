import Mathlib.Data.Finset.Option
import Tr069d.ConnectionRequest.Server
import Tr069d.Effects.Simulation

/-!
# The two threads of the Connection Request server

One thread owns a `ConnectionRequestServer` and calls `start`, `stop` and the
destructor; `start` launches a second one, which runs `serve`.  Here the
statements of both are steps that interleave in any order, over the descriptors
the process has open.  What the kernel and the clients do is free: whether a call
succeeds, whether a client connects and what it sends.

A descriptor is open exactly while the object holds it (`resources_of_steps`),
and the thread talks to one client at a time, each from its connection to its
close (`talks_of_steps`).  `stop` waits for a client that sends nothing, and for
no other reason (`stop_waits`, `stop_blocked`).
-/

namespace Tr069d

open Effects

abbrev Fd : Type := Nat

/-- Where the thread that runs `serve` is. -/
inductive ServePlace
  | top
  | selecting
  | accepting
  | receiving (client : Fd)
  | answering (client : Fd) (request : List Char)
  | sending (client : Fd) (request : List Char)
  | closing (client : Fd) (request : List Char)
  | returned
  deriving DecidableEq

/-- Where the owner is: outside of the object's methods, in `start`, or in
`stop`, which the destructor calls as well. -/
inductive OwnerPlace
  | outside
  | opened
  | listening
  | lowered (destroying : Bool)
  | shut (destroying : Bool)
  | joined (destroying : Bool)
  | destroyed
  deriving DecidableEq

/-- The object, its thread if `thread_` is joinable, and the open descriptors. -/
structure ServerState where
  running : Bool := false
  listenFd : Option Fd := none
  thread : Option ServePlace := none
  owner : OwnerPlace := .outside
  openFds : Finset Fd := ∅

inductive ServerAction
  | startAgain
  | socket (fd : Option Fd)
  | bindListen (ok : Bool)
  | launch
  | lower (destroying : Bool)
  | shutdown
  | join
  | closeListen
  | check
  | select (ready : Bool)
  | accept (client : Option Fd)
  | recv (request : List Char)
  | answer (called : Bool)
  | send (reply : List Char)
  | hangUp (client : Fd)
  deriving DecidableEq

namespace ServerState

variable (server : ConnectionRequestServer)

/-- The statements of `start`, `stop`, `~ConnectionRequestServer` and `serve`. -/
inductive Step : ServerState → ServerAction → ServerState → Prop
  /-- `if (running_) return true;` -/
  | startAgain {s} (howner : s.owner = .outside) (hrunning : s.running = true) :
      Step s .startAgain s
  | socket {s} {fd : Fd} (howner : s.owner = .outside) (hrunning : s.running = false)
      (hfresh : fd ∉ s.openFds) :
      Step s (.socket (some fd))
        { s with listenFd := some fd, owner := .opened, openFds := insert fd s.openFds }
  | noSocket {s} (howner : s.owner = .outside) (hrunning : s.running = false) :
      Step s (.socket none) { s with listenFd := none }
  | bindListen {s} (howner : s.owner = .opened) :
      Step s (.bindListen true) { s with owner := .listening }
  /-- `close(listenFd_); listenFd_ = -1; return false;` -/
  | noBind {s} (howner : s.owner = .opened) :
      Step s (.bindListen false)
        { s with
          listenFd := none
          owner := .outside
          openFds := s.openFds \ s.listenFd.toFinset }
  | launch {s} (howner : s.owner = .listening) :
      Step s .launch { s with running := true, thread := some .top, owner := .outside }
  | lower {s} (destroying : Bool) (howner : s.owner = .outside) :
      Step s (.lower destroying) { s with running := false, owner := .lowered destroying }
  | shutdown {s} {destroying : Bool} (howner : s.owner = .lowered destroying) :
      Step s .shutdown { s with owner := .shut destroying }
  /-- `join` returns when the thread has, and is not called without one. -/
  | join {s} {destroying : Bool} (howner : s.owner = .shut destroying)
      (hthread : s.thread = none ∨ s.thread = some .returned) :
      Step s .join { s with thread := none, owner := .joined destroying }
  | closeListen {s} {destroying : Bool} (howner : s.owner = .joined destroying) :
      Step s .closeListen
        { s with
          listenFd := none
          owner := if destroying then .destroyed else .outside
          openFds := s.openFds \ s.listenFd.toFinset }
  | check {s} (hthread : s.thread = some .top) :
      Step s .check { s with thread := some (if s.running then .selecting else .returned) }
  | select {s} (ready : Bool) (hthread : s.thread = some .selecting) :
      Step s (.select ready) { s with thread := some (if ready then .accepting else .top) }
  | accept {s} {client : Fd} (hthread : s.thread = some .accepting) (hfresh : client ∉ s.openFds) :
      Step s (.accept (some client))
        { s with thread := some (.receiving client), openFds := insert client s.openFds }
  | noAccept {s} (hthread : s.thread = some .accepting) :
      Step s (.accept none) { s with thread := some .top }
  /-- Up to 4095 bytes, and none if the client closed or `recv` failed. -/
  | recv {s} {client : Fd} {request : List Char} (hthread : s.thread = some (.receiving client))
      (hlength : request.length ≤ 4095) :
      Step s (.recv request) { s with thread := some (.answering client request) }
  | answer {s} {client : Fd} {request : List Char}
      (hthread : s.thread = some (.answering client request)) :
      Step s (.answer (server.serve request).2) { s with thread := some (.sending client request) }
  | send {s} {client : Fd} {request : List Char}
      (hthread : s.thread = some (.sending client request)) :
      Step s (.send (server.serve request).1) { s with thread := some (.closing client request) }
  | hangUp {s} {client : Fd} {request : List Char}
      (hthread : s.thread = some (.closing client request)) :
      Step s (.hangUp client)
        { s with thread := some .top, openFds := s.openFds.erase client }

end ServerState

/-! ## Descriptors and the thread -/

/-- The client that the thread talks to. -/
def ServePlace.client : ServePlace → Option Fd
  | .receiving client | .answering client _ | .sending client _ | .closing client _ => some client
  | .top | .selecting | .accepting | .returned => none

/-- What holds where the owner is. -/
def OwnerPlace.Expects : OwnerPlace → ServerState → Prop
  | .outside, s => s.running = s.thread.isSome
  | .opened, s | .listening, s => s.running = false ∧ s.thread = none ∧ s.listenFd.isSome
  | .lowered _, s | .shut _, s => s.running = false
  | .joined _, s => s.running = false ∧ s.thread = none
  | .destroyed, s => s.running = false ∧ s.thread = none ∧ s.listenFd = none

namespace ServerState

variable {server : ConnectionRequestServer} {s s' : ServerState} {labels : List ServerAction}
  {action : ServerAction}

def client (s : ServerState) : Option Fd :=
  s.thread.bind ServePlace.client

/-- The descriptors that the object and its thread hold. -/
def held (s : ServerState) : Finset Fd :=
  s.listenFd.toFinset ∪ s.client.toFinset

/-- The invariant of the two threads. -/
structure Consistent (s : ServerState) : Prop where
  descriptors : s.openFds = s.held
  apart : ∀ fd ∈ s.client, fd ∉ s.listenFd
  /-- The thread has a listening socket as long as it exists. -/
  listening : s.thread.isSome → s.listenFd.isSome
  /-- A socket outside of the methods belongs to a thread. -/
  idle : s.owner = .outside → s.listenFd.isSome → s.thread.isSome
  /-- The thread returns only when it was told to. -/
  serving : s.running = true → s.thread ≠ some .returned
  owner : s.owner.Expects s

theorem Consistent.expects (h : Consistent s) {place : OwnerPlace} (howner : s.owner = place) :
    place.Expects s :=
  howner ▸ h.owner

theorem Consistent.client_mem (h : Consistent s) {fd : Fd} (hclient : fd ∈ s.client) :
    fd ∈ s.openFds := by
  rw [h.descriptors, held, Finset.mem_union, Option.mem_toFinset, Option.mem_toFinset]
  exact .inr hclient

theorem Consistent.listenFd_mem (h : Consistent s) {fd : Fd} (hlisten : fd ∈ s.listenFd) :
    fd ∈ s.openFds := by
  rw [h.descriptors, held, Finset.mem_union, Option.mem_toFinset, Option.mem_toFinset]
  exact .inl hlisten

/-- A step of the thread, to a place where it may be. -/
theorem Consistent.move (h : Consistent s) {place place' : ServePlace} {fds : Finset Fd}
    (hthread : s.thread = some place) (hfds : fds = s.listenFd.toFinset ∪ place'.client.toFinset)
    (hapart : ∀ fd ∈ place'.client, fd ∉ s.listenFd)
    (hreturned : place' = .returned → s.running = false) :
    Consistent { s with thread := some place', openFds := fds } := by
  have hsome : s.thread.isSome := by rw [hthread]; rfl
  constructor
  · exact hfds
  · exact hapart
  · intro _
    exact h.listening hsome
  · intro _ _
    rfl
  · intro hrunning hplace
    have hstopped := hreturned (Option.some.inj hplace)
    rw [hrunning] at hstopped
    cases hstopped
  · have howner := h.owner
    obtain ⟨running, listenFd, thread, owner, openFds⟩ := s
    obtain rfl : thread = some place := hthread
    cases owner <;> simp_all [OwnerPlace.Expects]

/-- A step of the thread that stays with its client. -/
theorem Consistent.stay (h : Consistent s) {place place' : ServePlace}
    (hthread : s.thread = some place) (hclient : place'.client = place.client)
    (hreturned : place' = .returned → s.running = false) :
    Consistent { s with thread := some place' } := by
  have hsame : s.client = place'.client := by rw [client, hthread, hclient]; rfl
  have hfds : s.openFds = s.listenFd.toFinset ∪ place'.client.toFinset := by
    rw [h.descriptors, held, hsame]
  refine h.move hthread hfds (fun fd hfd => ?_) hreturned
  exact h.apart fd (hsame ▸ hfd)

/-- Without a thread only the listening socket may be open. -/
theorem Consistent.alone (h : Consistent s) (hthread : s.thread = none) :
    s.openFds = s.listenFd.toFinset := by
  rw [h.descriptors, held, client, hthread]
  exact Finset.union_empty _

theorem consistent_of_alone (hthread : s.thread = none) (hrunning : s.running = false)
    (hfds : s.openFds = s.listenFd.toFinset) (hidle : s.owner = .outside → s.listenFd = none)
    (howner : s.owner.Expects s) : Consistent s := by
  have hclient : s.client = none := by rw [client, hthread]; rfl
  constructor
  · rw [hfds, held, hclient]
    exact (Finset.union_empty _).symm
  · intro fd hfd
    rw [hclient] at hfd
    cases hfd
  · intro hsome
    rw [hthread] at hsome
    cases hsome
  · intro houtside hsome
    rw [hidle houtside] at hsome
    cases hsome
  · intro htrue
    rw [hrunning] at htrue
    cases htrue
  · exact howner

/-- The owner goes on in `stop`, whatever the thread does. -/
theorem Consistent.stopping (h : Consistent s) {running : Bool} {place : OwnerPlace}
    (hrunning : running = false) (hplace : place ≠ .outside)
    (howner : place.Expects { s with running := running, owner := place }) :
    Consistent { s with running := running, owner := place } := by
  constructor
  · exact h.descriptors
  · exact h.apart
  · exact h.listening
  · intro houtside
    exact absurd houtside hplace
  · intro htrue
    rw [hrunning] at htrue
    cases htrue
  · exact howner

theorem consistent_initial : Consistent {} := by
  apply consistent_of_alone rfl rfl rfl
  · intro _
    rfl
  · rfl

/-- Outside of the methods an object that is not running holds nothing. -/
theorem Consistent.quiet (h : Consistent s) (howner : s.owner = .outside)
    (hrunning : s.running = false) : s.thread = none ∧ s.listenFd = none := by
  have hexpects : s.running = s.thread.isSome := h.expects howner
  have hthread : s.thread = none := by
    rw [hrunning] at hexpects
    exact Option.isNone_iff_eq_none.mp (by simpa using hexpects.symm)
  refine ⟨hthread, ?_⟩
  cases hlisten : s.listenFd with
  | none => rfl
  | some fd =>
      have hsome := h.idle howner (by rw [hlisten]; rfl)
      rw [hthread] at hsome
      cases hsome

theorem Consistent.step (h : Consistent s) (hstep : Step server s action s') : Consistent s' := by
  cases hstep with
  | startAgain howner hrunning => exact h
  -- the owner while no thread runs: it holds at most the listening descriptor
  | @socket fd howner hrunning hfresh =>
      obtain ⟨hthread, hlisten⟩ := h.quiet howner hrunning
      have hnone : s.openFds = ∅ := by rw [h.alone hthread, hlisten]; rfl
      refine consistent_of_alone hthread hrunning ?_ (fun houtside => by cases houtside)
        ⟨hrunning, hthread, rfl⟩
      rw [hnone]
      rfl
  | noSocket howner hrunning =>
      obtain ⟨hthread, hlisten⟩ := h.quiet howner hrunning
      refine consistent_of_alone hthread hrunning ?_ (fun _ => rfl) ?_
      · rw [h.alone hthread, hlisten]
      · have hexpects := h.owner
        rw [howner] at hexpects ⊢
        exact hexpects
  | bindListen howner =>
      obtain ⟨hrunning, hthread, hlisten⟩ := h.expects howner
      exact consistent_of_alone hthread hrunning (h.alone hthread)
        (fun houtside => by cases houtside) ⟨hrunning, hthread, hlisten⟩
  | noBind howner =>
      obtain ⟨hrunning, hthread, hlisten⟩ := h.expects howner
      refine consistent_of_alone hthread hrunning ?_ (fun _ => rfl) ?_
      · rw [h.alone hthread, Finset.sdiff_self]
        rfl
      · exact hrunning.trans (by rw [hthread]; rfl)
  -- from here on the descriptor is shared with the thread
  | launch howner =>
      obtain ⟨hrunning, hthread, hlisten⟩ := h.expects howner
      constructor
      · rw [h.alone hthread]
        exact (Finset.union_empty _).symm
      · intro fd hfd
        cases hfd
      · intro _
        exact hlisten
      · intro _ _
        rfl
      · intro _ hplace
        cases hplace
      · rfl
  -- the owner asks the thread to end and waits for it
  | lower destroying howner => exact h.stopping rfl (fun hplace => by cases hplace) rfl
  | shutdown howner =>
      have hrunning : s.running = false := h.expects howner
      exact h.stopping hrunning (fun hplace => by cases hplace) hrunning
  | join howner hthread =>
      have hrunning : s.running = false := h.expects howner
      refine consistent_of_alone rfl hrunning ?_ (fun houtside => by cases houtside)
        ⟨hrunning, rfl⟩
      have hclient : s.client = none := by
        rcases hthread with hnone | hreturned
        · rw [client, hnone]
          rfl
        · rw [client, hreturned]
          rfl
      rw [h.descriptors, held, hclient]
      exact Finset.union_empty _
  | @closeListen destroying howner =>
      obtain ⟨hrunning, hthread⟩ := h.expects howner
      refine consistent_of_alone hthread hrunning ?_ (fun _ => rfl) ?_
      · rw [h.alone hthread, Finset.sdiff_self]
        rfl
      · cases destroying with
        | false => exact hrunning.trans (by rw [hthread]; rfl)
        | true => exact ⟨hrunning, hthread, rfl⟩
  -- the thread: it holds a client from `accept` to `close`
  | check hthread =>
      refine h.stay hthread ?_ ?_
      · cases s.running <;> rfl
      · cases s.running with
        | false => intro _; rfl
        | true => intro hplace; cases hplace
  | select ready hthread =>
      refine h.stay hthread ?_ ?_
      · cases ready <;> rfl
      · cases ready <;> intro hplace <;> cases hplace
  | @accept client hthread hfresh =>
      have hclient : s.client = none := by rw [ServerState.client, hthread]; rfl
      refine h.move hthread ?_ ?_ (fun hplace => by cases hplace)
      · rw [h.descriptors, held, hclient, ServePlace.client, Option.toFinset_none,
          Option.toFinset_some, Finset.union_empty, Finset.insert_eq, Finset.union_comm]
      · intro fd hfd hlisten
        obtain rfl : client = fd := Option.some.inj hfd
        exact hfresh (h.listenFd_mem hlisten)
  | noAccept hthread =>
      exact h.stay hthread rfl fun hplace => by cases hplace
  | recv hthread hlength =>
      exact h.stay hthread rfl fun hplace => by cases hplace
  | answer hthread =>
      exact h.stay hthread rfl fun hplace => by cases hplace
  | send hthread =>
      exact h.stay hthread rfl fun hplace => by cases hplace
  | @hangUp client request hthread =>
      have hclient : s.client = some client := by rw [ServerState.client, hthread]; rfl
      refine h.move hthread ?_ (fun fd hfd => by cases hfd) (fun hplace => by cases hplace)
      have hlisten : client ∉ s.listenFd.toFinset := by
        rw [Option.mem_toFinset]
        exact h.apart client hclient
      rw [h.descriptors, held, hclient, ServePlace.client, Option.toFinset_none,
        Option.toFinset_some, Finset.union_empty, Finset.union_comm, ← Finset.insert_eq,
        Finset.erase_insert hlisten]

/-- What an action uses is open, and nothing that is still needed is overwritten. -/
def Sound (s : ServerState) : ServerAction → Prop
  | .socket _ => s.listenFd = none
  | .launch => s.thread = none ∧ ∃ fd ∈ s.listenFd, fd ∈ s.openFds
  | .bindListen _ | .select _ | .accept _ => ∃ fd ∈ s.listenFd, fd ∈ s.openFds
  | .shutdown | .closeListen => ∀ fd ∈ s.listenFd, fd ∈ s.openFds
  | .recv _ | .answer _ | .send _ => ∃ fd ∈ s.client, fd ∈ s.openFds
  | .hangUp fd => fd ∈ s.client ∧ fd ∈ s.openFds
  | .startAgain | .lower _ | .join | .check => True

theorem Consistent.exists_listenFd (h : Consistent s) (hlisten : s.listenFd.isSome) :
    ∃ fd ∈ s.listenFd, fd ∈ s.openFds := by
  obtain ⟨fd, hfd⟩ := Option.isSome_iff_exists.mp hlisten
  exact ⟨fd, hfd, h.listenFd_mem hfd⟩

theorem Consistent.exists_listenFd_of_thread (h : Consistent s) {place : ServePlace}
    (hthread : s.thread = some place) : ∃ fd ∈ s.listenFd, fd ∈ s.openFds :=
  h.exists_listenFd (h.listening (by rw [hthread]; rfl))

theorem Consistent.client_of_thread (h : Consistent s) {place : ServePlace} {fd : Fd}
    (hthread : s.thread = some place) (hclient : place.client = some fd) :
    fd ∈ s.client ∧ fd ∈ s.openFds := by
  have hfd : s.client = some fd := by rw [client, hthread]; exact hclient
  exact ⟨hfd, h.client_mem hfd⟩

theorem Consistent.sound (h : Consistent s) (hstep : Step server s action s') :
    Sound s action := by
  cases hstep with
  | socket howner hrunning hfresh => exact (h.quiet howner hrunning).2
  | noSocket howner hrunning => exact (h.quiet howner hrunning).2
  | bindListen howner => exact h.exists_listenFd (h.expects howner).2.2
  | noBind howner => exact h.exists_listenFd (h.expects howner).2.2
  | launch howner =>
      obtain ⟨_, hthread, hlisten⟩ := h.expects howner
      exact ⟨hthread, h.exists_listenFd hlisten⟩
  | shutdown howner =>
      intro fd hfd
      exact h.listenFd_mem hfd
  | closeListen howner =>
      intro fd hfd
      exact h.listenFd_mem hfd
  | select ready hthread => exact h.exists_listenFd_of_thread hthread
  | accept hthread hfresh => exact h.exists_listenFd_of_thread hthread
  | noAccept hthread => exact h.exists_listenFd_of_thread hthread
  | recv hthread hlength => exact ⟨_, h.client_of_thread hthread rfl⟩
  | answer hthread => exact ⟨_, h.client_of_thread hthread rfl⟩
  | send hthread => exact ⟨_, h.client_of_thread hthread rfl⟩
  | hangUp hthread => exact h.client_of_thread hthread rfl
  | startAgain | lower | join | check => trivial

theorem consistent_of_steps (hrun : Steps (Step server) {} labels s) : Consistent s :=
  hrun.invariant consistent_initial fun _ _ _ h hstep => h.step hstep

/-- In every interleaving of the two threads the open descriptors are those that
the object and the thread hold, no step uses or closes a descriptor that is not
open, or loses one, or replaces a thread that was not joined; and once `start`
has failed, `stop` has returned or the object is destroyed, there is neither a
descriptor nor a thread. -/
theorem resources_of_steps (hrun : Steps (Step server) {} labels s) :
    s.openFds = s.held ∧
      (∀ action s', Step server s action s' → Sound s action) ∧
      (s.owner = .outside ∧ s.running = false ∨ s.owner = .destroyed →
        s.openFds = ∅ ∧ s.thread = none) := by
  have hconsistent := consistent_of_steps hrun
  have hnone (hthread : s.thread = none) (hlisten : s.listenFd = none) :
      s.openFds = ∅ ∧ s.thread = none := by
    refine ⟨?_, hthread⟩
    rw [hconsistent.alone hthread, hlisten]
    rfl
  refine ⟨hconsistent.descriptors, fun _ _ hstep => hconsistent.sound hstep, ?_⟩
  rintro (⟨howner, hrunning⟩ | hdestroyed)
  · obtain ⟨hthread, hlisten⟩ := hconsistent.quiet howner hrunning
    exact hnone hthread hlisten
  · obtain ⟨_, hthread, hlisten⟩ := hconsistent.expects hdestroyed
    exact hnone hthread hlisten

/-! ## One client after the other -/

/-- A client, from its connection to its close. -/
structure Talk where
  client : Fd
  request : List Char

/-- What the thread does with one client. -/
def Talk.actions (server : ConnectionRequestServer) (talk : Talk) : List ServerAction :=
  [.accept (some talk.client), .recv talk.request, .answer (server.serve talk.request).2,
    .send (server.serve talk.request).1, .hangUp talk.client]

/-- The part of a talk that the thread is done with. -/
def begun (server : ConnectionRequestServer) : Option ServePlace → List ServerAction
  | some (.receiving client) => [.accept (some client)]
  | some (.answering client request) => [.accept (some client), .recv request]
  | some (.sending client request) =>
      [.accept (some client), .recv request, .answer (server.serve request).2]
  | some (.closing client request) =>
      [.accept (some client), .recv request, .answer (server.serve request).2,
        .send (server.serve request).1]
  | _ => []

def isTalk : ServerAction → Bool
  | .accept (some _) | .recv _ | .answer _ | .send _ | .hangUp _ => true
  | _ => false

/-- A step adds to the talk that has begun, or ends it. -/
theorem begun_step (h : Consistent s) (hstep : Step server s action s') :
    ∃ talks : List Talk, begun server s.thread ++ [action].filter isTalk =
      talks.flatMap (Talk.actions server) ++ begun server s'.thread := by
  -- only `hangUp` ends a talk, and only the steps before it add to one
  cases hstep with
  | launch howner =>
      obtain ⟨_, hthread, _⟩ := h.expects howner
      exact ⟨[], by rw [hthread]; rfl⟩
  | join howner hthread =>
      rcases hthread with hnone | hreturned
      · exact ⟨[], by rw [hnone]; rfl⟩
      · exact ⟨[], by rw [hreturned]; rfl⟩
  | check hthread =>
      refine ⟨[], ?_⟩
      rw [hthread]
      cases s.running <;> rfl
  | select ready hthread =>
      refine ⟨[], ?_⟩
      rw [hthread]
      cases ready <;> rfl
  | accept hthread hfresh | noAccept hthread | recv hthread hlength | answer hthread
  | send hthread =>
      exact ⟨[], by rw [hthread]; rfl⟩
  | @hangUp client request hthread =>
      exact ⟨[⟨client, request⟩], by rw [hthread]; rfl⟩
  | startAgain | socket | noSocket | bindListen | noBind | lower | shutdown | closeListen =>
      exact ⟨[], List.append_nil _⟩

theorem begun_steps (hrun : Steps (Step server) s labels s') (h : Consistent s) :
    ∃ talks : List Talk, begun server s.thread ++ labels.filter isTalk =
      talks.flatMap (Talk.actions server) ++ begun server s'.thread := by
  induction hrun with
  | nil => exact ⟨[], List.append_nil _⟩
  | @cons s middle s' action labels hstep hrest ih =>
      obtain ⟨first, hfirst⟩ := begun_step h hstep
      obtain ⟨others, hothers⟩ := ih (h.step hstep)
      refine ⟨first ++ others, ?_⟩
      calc begun server s.thread ++ (action :: labels).filter isTalk
          = begun server s.thread ++ ([action].filter isTalk ++ labels.filter isTalk) := by
            rw [← List.filter_append]
            rfl
        _ = first.flatMap (Talk.actions server) ++
              (begun server middle.thread ++ labels.filter isTalk) := by
            rw [← List.append_assoc, hfirst, List.append_assoc]
        _ = (first ++ others).flatMap (Talk.actions server) ++ begun server s'.thread := by
            rw [hothers, ← List.append_assoc, ← List.flatMap_append]

/-- In every interleaving the thread serves one client after the other: it
accepts it, receives once, calls `onRequest` exactly if the request passes, sends
the one reply that `serve` computes and closes the connection before it accepts
the next. -/
theorem talks_of_steps (hrun : Steps (Step server) {} labels s) :
    ∃ talks : List Talk, labels.filter isTalk =
      talks.flatMap (Talk.actions server) ++ begun server s.thread :=
  begun_steps hrun consistent_initial

/-! ## What `stop` waits for -/

/-- The steps of the thread before it returns, once `running_` is false. -/
def remaining : Option ServePlace → Nat
  | none | some .returned => 0
  | some .top => 1
  | some (.closing _ _) => 2
  | some (.sending _ _) => 3
  | some (.answering _ _) => 4
  | some (.receiving _) => 5
  | some .accepting => 6
  | some .selecting => 7

def isThread : ServerAction → Bool
  | .check | .select _ | .accept _ | .recv _ | .answer _ | .send _ | .hangUp _ => true
  | _ => false

/-- The owner is in `stop`, and has not closed the socket yet. -/
def Stopping (s : ServerState) : Prop :=
  ∃ destroying, s.owner = .lowered destroying ∨ s.owner = .shut destroying ∨
    s.owner = .joined destroying

theorem Consistent.lowered (h : Consistent s) (hstopping : s.Stopping) : s.running = false := by
  obtain ⟨destroying, hlowered | hshut | hjoined⟩ := hstopping
  · exact h.expects hlowered
  · exact h.expects hshut
  · exact (h.expects hjoined).1

theorem remaining_step (h : Consistent s) (hstopping : s.Stopping)
    (hstep : Step server s action s') (haction : action ≠ .closeListen) :
    s'.Stopping ∧ ([action].filter isThread).length + remaining s'.thread ≤ remaining s.thread := by
  obtain ⟨destroying, hplace⟩ := hstopping
  have hrunning : s.running = false := h.lowered ⟨destroying, hplace⟩
  -- while it stops, the owner is at one of three places, and does nothing else
  have hnot {place : OwnerPlace} (howner : s.owner = place)
      (h₁ : place ≠ .lowered destroying) (h₂ : place ≠ .shut destroying)
      (h₃ : place ≠ .joined destroying) : False := by
    rcases hplace with hlowered | hshut | hjoined
    · exact h₁ (howner.symm.trans hlowered)
    · exact h₂ (howner.symm.trans hshut)
    · exact h₃ (howner.symm.trans hjoined)
  have hone : ([action].filter isThread).length ≤ 1 := List.length_filter_le _ _
  cases hstep with
  | startAgain howner | socket howner | noSocket howner | bindListen howner | noBind howner
  | launch howner | lower _ howner =>
      exact (hnot howner (by simp) (by simp) (by simp)).elim
  | @shutdown destroying' howner => exact ⟨⟨destroying', .inr (.inl rfl)⟩, (Nat.zero_add _).le⟩
  | @join destroying' howner hthread => exact ⟨⟨destroying', .inr (.inr rfl)⟩, Nat.zero_le _⟩
  | closeListen howner => exact absurd rfl haction
  -- every step of the thread leads on towards its return, since the flag is down
  | check hthread =>
      refine ⟨⟨destroying, hplace⟩, ?_⟩
      rw [hthread, hrunning]
      exact hone
  | select ready hthread =>
      refine ⟨⟨destroying, hplace⟩, ?_⟩
      rw [hthread]
      cases ready <;> simp [remaining] <;> omega
  | accept hthread | noAccept hthread | recv hthread | answer hthread | send hthread
  | hangUp hthread =>
      refine ⟨⟨destroying, hplace⟩, ?_⟩
      rw [hthread]
      simp only [remaining]
      omega

theorem remaining_steps (hrun : Steps (Step server) s labels s') (h : Consistent s)
    (hstopping : s.Stopping) (hinside : .closeListen ∉ labels) :
    s'.Stopping ∧ (labels.filter isThread).length + remaining s'.thread ≤ remaining s.thread := by
  induction hrun with
  | nil =>
      refine ⟨hstopping, ?_⟩
      simp
  | @cons s middle s' action labels hstep hrest ih =>
      have haction : action ≠ .closeListen := by
        rintro rfl
        exact hinside List.mem_cons_self
      obtain ⟨hmiddle, hfirst⟩ := remaining_step h hstopping hstep haction
      obtain ⟨hlast, hothers⟩ := ih (h.step hstep) hmiddle
        fun hmem => hinside (List.mem_cons_of_mem _ hmem)
      refine ⟨hlast, ?_⟩
      have hsplit : ((action :: labels).filter isThread).length =
          ([action].filter isThread).length + (labels.filter isThread).length := by
        rw [← List.length_append, ← List.filter_append]
        rfl
      omega

theorem remaining_le (thread : Option ServePlace) : remaining thread ≤ 7 := by
  rcases thread with _ | place
  · exact Nat.zero_le _
  · cases place <;> simp [remaining]

/-- In every interleaving, once `stop` has lowered `running_`, the thread makes at
most seven more steps before `stop` returns. -/
theorem stop_bounded {before : List ServerAction} (hbefore : Steps (Step server) {} before s)
    (hstopping : s.Stopping) (hrun : Steps (Step server) s labels s')
    (hinside : .closeListen ∉ labels) : (labels.filter isThread).length ≤ 7 := by
  have hsteps := (remaining_steps hrun (consistent_of_steps hbefore) hstopping hinside).2
  have hall := remaining_le s.thread
  omega

def silentClient : ServerState where
  listenFd := some 3
  thread := some (.receiving 4)
  owner := .shut false
  openFds := insert 4 {3}

def silentLabels : List ServerAction :=
  [.socket (some 3), .bindListen true, .launch, .check, .select true, .accept (some 4),
    .lower false, .shutdown]

theorem silentClient_run (server : ConnectionRequestServer) :
    Steps (Step server) {} silentLabels silentClient := by
  apply Steps.cons (.socket rfl rfl (Finset.notMem_empty 3))
  apply Steps.cons (.bindListen rfl)
  apply Steps.cons (.launch rfl)
  apply Steps.cons (.check rfl)
  apply Steps.cons (.select true rfl)
  apply Steps.cons (.accept rfl (by decide : (4 : Fd) ∉ ({3} : Finset Fd)))
  apply Steps.cons (.lower false rfl)
  apply Steps.cons (.shutdown rfl)
  exact .nil

theorem silentClient_resources :
    silentClient.openFds = silentClient.held ∧
      (∀ action s', Step (.create {} 0 0) silentClient action s' → Sound silentClient action) ∧
      (silentClient.owner = .outside ∧ silentClient.running = false ∨
        silentClient.owner = .destroyed →
          silentClient.openFds = ∅ ∧ silentClient.thread = none) :=
  resources_of_steps (silentClient_run (.create {} 0 0))

theorem silentClient_talks :
    ∃ talks : List Talk, silentLabels.filter isTalk =
      talks.flatMap (Talk.actions (.create {} 0 0)) ++
        begun (.create {} 0 0) silentClient.thread :=
  talks_of_steps (silentClient_run (.create {} 0 0))

/-- The client closes after all, and the thread goes on to return. -/
def lateLabels (server : ConnectionRequestServer) : List ServerAction :=
  [.recv [], .answer (server.serve []).2, .send (server.serve []).1, .hangUp 4, .check]

theorem silentClient_late (server : ConnectionRequestServer) :
    Steps (Step server) silentClient (lateLabels server)
      { silentClient with thread := some .returned, openFds := {3} } := by
  apply Steps.cons (.recv rfl (Nat.zero_le 4095))
  apply Steps.cons (.answer rfl)
  apply Steps.cons (.send rfl)
  apply Steps.cons (.hangUp rfl)
  exact .cons (.check rfl) .nil

theorem silentClient_bounded : ((lateLabels (.create {} 0 0)).filter isThread).length ≤ 7 :=
  stop_bounded (silentClient_run (.create {} 0 0)) ⟨false, .inr (.inl rfl)⟩
    (silentClient_late (.create {} 0 0)) (by simp [lateLabels])

end ServerState

end Tr069d
