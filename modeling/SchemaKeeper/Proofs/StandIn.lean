import SchemaKeeper.Proofs.Cluster
import SchemaKeeper.Proofs.Endpoint
import SchemaKeeper.Proofs.Place
import SchemaKeeper.Transport

/-!
# The scripted cluster as a stand-in for the wire

A method of the cluster in memory may be scripted with what a transport would
give.  Its answer is then the one that is read from the wire, except that a ping
in memory never looks at the body: a successful answer that is no JSON fails on
the wire only.  Convergence and clean-up never ping, so they cannot tell a
scripted cluster from a transport that gives what is scripted.
-/

namespace SchemaKeeper

open Convergence

/-- A successful answer whose body is no JSON. -/
def Outcome.IsUnreadable (outcome : Outcome) : Prop :=
  ∃ response, outcome = .ok response ∧ response.isSuccess ∧
    ∀ document, Json.parse response.body ≠ .ok document

variable {World : Type}

/-! ## Gateways over any transport -/

/-- The answers in the dialect of a version over anything that carries requests. -/
def Wire.answerOver (carry : Wire.Request → World → Outcome × World) (version : Version)
    (c : Call) (world : World) : Except RemoteError c.Answer × World :=
  let (outcome, world) := carry (Wire.request version c) world
  (Wire.read outcome c, world)

/-- How a gateway has its requests carried over a network. -/
def HttpGateway.carry (network : Network World) (gateway : HttpGateway) (request : Wire.Request) :
    World → Outcome × World :=
  gateway.transport.send network request.verb request.target request.body

theorem HttpGateway.answer_eq_answerOver (network : Network World) (gateway : HttpGateway) :
    gateway.answer network = Wire.answerOver (gateway.carry network) gateway.version :=
  rfl

/-! ## One call -/

namespace Cluster

theorem answer_script (cluster : Cluster) (c : Call) (outcome : Outcome) :
    ((cluster.script c.method outcome).answer c).1 = scriptedAnswer outcome c := by
  have hscript : (cluster.script c.method outcome).scripted.lookup c.method = some outcome := by
    simp [script]
  rw [answer_of_scripted c hscript]

theorem scriptedRead_of_isSuccess {response : Response} (h : response.isSuccess) :
    scriptedRead (.ok response) = .ok response := by
  simp [scriptedRead, h, Bind.bind, Except.bind, pure, Except.pure]

theorem scriptedRead_of_not_isSuccess {response : Response} (h : ¬response.isSuccess) :
    scriptedRead (.ok response) = .error (.status response.code response.body) := by
  simp [scriptedRead, h, Bind.bind, Except.bind, throw, throwThe, MonadExceptOf.throw]

/-- Only successes pass a scripted read, and only successes have documents. -/
theorem scriptedRead_bind_document (outcome : Outcome) :
    (scriptedRead outcome).bind Response.document = Wire.readDocument outcome := by
  cases outcome with
  | error e => rfl
  | ok response =>
      by_cases h : response.isSuccess
      · rw [scriptedRead_of_isSuccess h]
        rfl
      · rw [scriptedRead_of_not_isSuccess h]
        simp [Except.bind, Wire.readDocument, Response.document, h]

theorem scriptedAnswer_of_ne_ping {c : Call} (h : c ≠ .ping) (outcome : Outcome) :
    scriptedAnswer outcome c = Wire.read outcome c := by
  cases c with
  | ping => contradiction
  | indexExists | templateExists => cases outcome <;> rfl
  | indexSettings => exact scriptedRead_bind_document outcome
  | indexProperties name =>
      calc scriptedAnswer outcome (.indexProperties name)
        _ = ((scriptedRead outcome).bind Response.document).map (Remote.properties · name) := by
            simp only [scriptedAnswer]
            cases scriptedRead outcome with
            | error e => rfl
            | ok response =>
                change response.document.bind _ = response.document.map _
                cases response.document <;> rfl
        _ = Wire.read outcome (.indexProperties name) := by
            rw [scriptedRead_bind_document]
            rfl
  | putIndexReplicas | putIndexProperties | createIndex | deleteIndex | putTemplate
  | deleteTemplate | putPipeline | deletePipeline => rfl

/-- A scripted ping stops before the body that a ping over the wire goes on to read. -/
theorem scriptedAnswer_ping_eq_iff (outcome : Outcome) :
    scriptedAnswer outcome .ping = Wire.read outcome .ping ↔ ¬outcome.IsUnreadable := by
  cases outcome with
  | error e => exact iff_of_true rfl fun ⟨response, h, _⟩ => nomatch h
  | ok response =>
      by_cases h : response.isSuccess
      · have hscripted : scriptedAnswer (.ok response) .ping = .ok () := by
          simp [scriptedAnswer, scriptedRead_of_isSuccess h, Except.map]
        have hwire : Wire.read (.ok response) .ping = .ok () ↔
            ∃ document, Json.parse response.body = .ok document := by
          cases hbody : Json.parse response.body <;>
            simp [Wire.read, Wire.readDocument, Response.document, h, hbody, Except.map,
              Except.mapError]
        rw [hscripted, eq_comm, hwire]
        simp [Outcome.IsUnreadable, h]
      · apply iff_of_true
        · simp [scriptedAnswer, Wire.read, ← scriptedRead_bind_document,
            scriptedRead_of_not_isSuccess h, Except.map, Except.bind]
        · rintro ⟨other, hother, hsuccess, -⟩
          cases hother
          exact h hsuccess

theorem scriptedAnswer_eq_iff (outcome : Outcome) (c : Call) :
    scriptedAnswer outcome c = Wire.read outcome c ↔ ¬(c = .ping ∧ outcome.IsUnreadable) := by
  by_cases hc : c = .ping
  · subst hc
    simpa using scriptedAnswer_ping_eq_iff outcome
  · simp [hc, scriptedAnswer_of_ne_ping hc outcome]

/-! ## Runs -/

/-- A call's method is scripted with what the transport gives for the call, at all times. -/
def StandsFor (cluster : Cluster) (carry : Wire.Request → World → Outcome × World)
    (version : Version) (c : Call) : Prop :=
  ∀ world, cluster.scripted.lookup c.method = some (carry (Wire.request version c) world).1

theorem answer_of_standsFor {cluster : Cluster} {carry : Wire.Request → World → Outcome × World}
    {version : Version} {c : Call} (h : cluster.StandsFor carry version c) (hc : c ≠ .ping)
    (world : World) : (cluster.answer c).1 = (Wire.answerOver carry version c world).1 := by
  rw [answer_of_scripted c (h world)]
  exact scriptedAnswer_of_ne_ping hc _

/-- Scripts outlive calls, so a cluster that stands for the wire does so to the end of a run. -/
theorem run_of_standsFor {carry : Wire.Request → World → Outcome × World} {version : Version}
    {α : Type} {p : Program α} {P : Call → Prop} (hp : p.Asks P) (hping : ∀ c, P c → c ≠ .ping)
    {cluster : Cluster} (h : ∀ c, P c → cluster.StandsFor carry version c) (world : World) :
    (p.run Cluster.answer cluster).1 = (p.run (Wire.answerOver carry version) world).1 := by
  induction p generalizing cluster world with
  | done result => rfl
  | call c next ih =>
      have hfound := answer_of_standsFor (h c hp.1) (hping c hp.1) world
      have hkept : ∀ c', P c' → (cluster.answer c).2.StandsFor carry version c' := by
        intro c' hc' later
        rw [scripted_answer]
        exact h c' hc' later
      simp only [Program.run, hfound]
      exact ih _ (hp.2 _) hkept _

/--
A scripted call gives what a gateway gives, unless it is a ping with an unreadable
answer; and a pass or a clean-up gives what it gives on a gateway to which every
call of the object brings what its method is scripted with.
-/
structure AgreesWithScript (carry : Wire.Request → World → Outcome × World) (version : Version)
    (answer : (c : Call) → World → Except RemoteError c.Answer × World) : Prop where
  call : ∀ (c : Call) (cluster : Cluster) (world : World),
    let outcome := (carry (Wire.request version c) world).1
    ((cluster.script c.method outcome).answer c).1 = (answer c world).1 ↔
      ¬(c = .ping ∧ outcome.IsUnreadable)
  run : ∀ (object : DesiredObject) (cluster : Cluster),
    (∀ c, c.place? = some object.place → cluster.StandsFor carry version c) →
    ∀ (ceiling : Nat) (world : World),
      ((converge ceiling object).run Cluster.answer cluster).1 =
          ((converge ceiling object).run answer world).1 ∧
        ((cleanUp object).run Cluster.answer cluster).1 = ((cleanUp object).run answer world).1

theorem agreesWithScript_answerOver (carry : Wire.Request → World → Outcome × World)
    (version : Version) : AgreesWithScript carry version (Wire.answerOver carry version) where
  call c cluster world := by
    simp only [answer_script]
    exact scriptedAnswer_eq_iff _ c
  run object cluster h ceiling world := by
    have hping : ∀ c : Call, c.place? = some object.place → c ≠ .ping := by
      rintro _ hplace rfl
      cases hplace
    exact ⟨run_of_standsFor (asks_converge ceiling object) hping h world,
      run_of_standsFor (Program.asks_cleanUp object) hping h world⟩

/-- A scripted cluster agrees with the wire, whatever carries the requests, and so with gateways. -/
theorem scripted_agrees_with_wire_iff (carry : Wire.Request → World → Outcome × World)
    (version : Version) :
    AgreesWithScript carry version (Wire.answerOver carry version) ∧
      ∀ (network : Network World) (gateway : HttpGateway),
        AgreesWithScript (gateway.carry network) gateway.version (gateway.answer network) := by
  refine ⟨agreesWithScript_answerOver carry version, fun network gateway => ?_⟩
  rw [HttpGateway.answer_eq_answerOver]
  exact agreesWithScript_answerOver (gateway.carry network) gateway.version

/-! ## A cluster that lacks everything and accepts everything -/

def acceptingWire (request : Wire.Request) (world : Unit) : Outcome × Unit :=
  (.ok (if request.verb = .head then ⟨404, ""⟩ else acknowledged), world)

def acceptingScript : Cluster :=
  let missing : Outcome := .ok ⟨404, ""⟩
  let accepted : Outcome := .ok acknowledged
  { empty with
    scripted := [(.indexExists, missing), (.templateExists, missing), (.indexSettings, accepted),
      (.indexProperties, accepted), (.putIndexReplicas, accepted), (.putIndexProperties, accepted),
      (.createIndex, accepted), (.deleteIndex, accepted), (.putTemplate, accepted),
      (.deleteTemplate, accepted), (.putPipeline, accepted), (.deletePipeline, accepted)] }

theorem scripted_agrees_with_accepting_wire :
    let object := Rounds.orders.object
    (∀ c, c.place? = some object.place → acceptingScript.StandsFor acceptingWire .v8 c) ∧
      ((converge 64 object).run (Wire.answerOver acceptingWire .v8) ()).1.state = .created := by
  have hstands : ∀ c, c.place? = some Rounds.orders.object.place →
      acceptingScript.StandsFor acceptingWire .v8 c := by
    rintro c hplace -
    cases c with
    | indexExists | indexSettings | indexProperties | putIndexReplicas | putIndexProperties
    | createIndex | deleteIndex => rfl
    | ping | templateExists | putTemplate | deleteTemplate | putPipeline | deletePipeline =>
        cases hplace
  have hrun := ((scripted_agrees_with_wire_iff acceptingWire .v8).1.run _ _ hstands 64 ()).1
  have hcreated : ((converge 64 Rounds.orders.object).run Cluster.answer
      acceptingScript).1.state = .created := by decide +kernel
  exact ⟨hstands, hrun ▸ hcreated⟩

/-- A network on which everything is answered, with what is no JSON. -/
def babblingNetwork : Network Unit :=
  ⟨fun _ world => (.ok ⟨200, "not json"⟩, world)⟩

def babblingGateway : HttpGateway :=
  ⟨.v8, ⟨"http://localhost:9200", none, none, .ofSeconds 10⟩⟩

/-- A ping in memory accepts a successful answer that a ping of a gateway cannot read. -/
theorem scripted_ping_reads_no_body :
    ¬∀ (network : Network Unit) (gateway : HttpGateway) (c : Call) (cluster : Cluster)
        (world : Unit),
      let outcome := (gateway.carry network (Wire.request gateway.version c) world).1
      ((cluster.script c.method outcome).answer c).1 = (gateway.answer network c world).1 := by
  intro h
  have hping := h babblingNetwork babblingGateway .ping empty ()
  have houtcome : (babblingGateway.carry babblingNetwork (Wire.request .v8 .ping) ()).1 =
      .ok ⟨200, "not json"⟩ := by decide +kernel
  rw [HttpGateway.answer_eq_answerOver] at hping
  simp only [answer_script, Wire.answerOver] at hping
  rw [show babblingGateway.version = .v8 from rfl, houtcome] at hping
  have hunreadable : Wire.read (.ok ⟨200, "not json"⟩) .ping =
      .error (.decode "expected ident at line 1 column 2") := by decide +kernel
  have hscripted : scriptedAnswer (.ok ⟨200, "not json"⟩) .ping = .ok () := by decide +kernel
  exact nomatch hunreadable.symm.trans (hping.symm.trans hscripted)

end Cluster

end SchemaKeeper
