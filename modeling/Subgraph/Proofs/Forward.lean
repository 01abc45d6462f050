import Subgraph.Resolver.Basic

/-!
# What comes of a forwarded request

A request that is forwarded, by itself or by a proxy, ends with data or with
the errors of a failure.  Which of them it is depends on the body of the answer
alone.

* `Origin.Brings` and `Origin.after` say what a post brings back and how it leaves
  the origin.
* `Origin.Reads` says which response an answer stands for, and `Origin.Gives` what
  forwarding makes of it.
* `Origin.Follows` says that the body decides, and `Origin.forward_follows` and
  `Resolver.proxy_follows` that both ways of forwarding do what it says.
* `Origin.IsFaithful` asks for more: no data unless the status is one of
  success.  `Origin.faithful_iff` says exactly which answers come between, those
  that deny success and still hold a response without errors.
-/

namespace Subgraph

namespace Origin

/-! ## Answers -/

/-- What the origin sends back for a request, or why nothing whole came back. -/
def answer (origin : Origin) (url : Url) (headers : Headers) (request : Request) :
    Except ExchangeFailure (Nat × String) :=
  ((send (postOf url headers request)).run origin).1

/-- What a post brings back: the answer that is ready where the origin gets the post, and the reason
where there is none. -/
inductive Brings (origin : Origin) (post : Post) : Except ExchangeFailure (Nat × String) → Prop where
  | notMade (unrequestable : isRequestable post.url = false) :
      Brings origin post (.error (.notMade post.url))
  | unreached (requestable : isRequestable post.url = true)
      (deaf : origin.isListening = false) : Brings origin post (.error (.notSent post.url))
  | response {status : Nat} {body : String} (received : origin.receives post = true)
      (ready : origin.replies.head? = some (.response status body)) :
      Brings origin post (.ok (status, body))
  | truncated (received : origin.receives post = true)
      (ready : origin.replies.head? = some .truncated) : Brings origin post (.error .incomplete)
  | closed (received : origin.receives post = true)
      (ready : origin.replies.head? = some .closed ∨ origin.replies.head? = none) :
      Brings origin post (.error (.notSent post.url))

/-- The origin after a post.  A post that it gets takes the answer that is ready, any other leaves
it as it is. -/
def after (origin : Origin) (post : Post) : Origin :=
  if origin.receives post then
    { origin with replies := origin.replies.drop 1, received := origin.received ++ [post] }
  else origin

/-- A post brings back one thing only. -/
theorem Brings.eq {origin : Origin} {post : Post}
    {answer other : Except ExchangeFailure (Nat × String)} (brings : Brings origin post answer)
    (again : Brings origin post other) : answer = other := by
  cases brings <;> cases again <;> simp_all [receives]

/-- A body that is a response without errors. -/
def IsClean (body : String) : Prop :=
  ∃ response, Response.ofText? body = some response ∧ response.errors = []

/-- A whole answer came back, and its body is a response without errors. -/
def IsDelivered (answer : Except ExchangeFailure (Nat × String)) : Prop :=
  ∃ status body, answer = .ok (status, body) ∧ IsClean body

/-- A response without errors came back, with a status of success. -/
def Succeeds (answer : Except ExchangeFailure (Nat × String)) : Prop :=
  ∃ status body, answer = .ok (status, body) ∧ (200 ≤ status ∧ status < 300) ∧ IsClean body

/-- A response without errors came back, with a status that is not one of success. -/
def DeniesSuccess (answer : Except ExchangeFailure (Nat × String)) : Prop :=
  ∃ status body, answer = .ok (status, body) ∧ ¬ (200 ≤ status ∧ status < 300) ∧ IsClean body

/-! ## Outcomes -/

/-- A failure with at least one error of the origin, or of the exchange with it. -/
def IsRemoteFailure (outcome : Except ResolverError Json) : Prop :=
  ∃ errors, errors ≠ [] ∧ outcome = .error (.remote errors)

/-- The body of the answer decides whether there is data or a failure. -/
structure Follows (answer : Except ExchangeFailure (Nat × String))
    (outcome : Except ResolverError Json) : Prop where
  data : IsDelivered answer → ∃ value, outcome = .ok value
  failure : ¬ IsDelivered answer → IsRemoteFailure outcome

/-- There is data only where the origin succeeds, and a failure everywhere else. -/
structure IsFaithful (answer : Except ExchangeFailure (Nat × String))
    (outcome : Except ResolverError Json) : Prop where
  data : (∃ value, outcome = .ok value) → Succeeds answer
  failure : ¬ Succeeds answer → IsRemoteFailure outcome

theorem IsRemoteFailure.ne_ok {outcome : Except ResolverError Json}
    (failure : IsRemoteFailure outcome) (value : Json) : outcome ≠ .ok value := by
  obtain ⟨errors, _, rfl⟩ := failure
  intro same
  cases same

/-- What follows the body is faithful, unless the status denies what the body says. -/
theorem Follows.isFaithful_iff {answer : Except ExchangeFailure (Nat × String)}
    {outcome : Except ResolverError Json} (follows : Follows answer outcome) :
    IsFaithful answer outcome ↔ ¬ DeniesSuccess answer := by
  constructor
  · rintro faithful ⟨status, body, answered, denied, clean⟩
    obtain ⟨_, _, again, success, _⟩ := faithful.data (follows.data ⟨status, body, answered, clean⟩)
    cases answered.symm.trans again
    exact denied success
  · intro undenied
    have succeeds : IsDelivered answer → Succeeds answer := by
      rintro ⟨status, body, answered, clean⟩
      by_cases success : 200 ≤ status ∧ status < 300
      · exact ⟨status, body, answered, success, clean⟩
      · exact absurd ⟨status, body, answered, success, clean⟩ undenied
    refine ⟨?_, fun fails => follows.failure fun delivered => fails (succeeds delivered)⟩
    rintro ⟨value, isData⟩
    refine Classical.byContradiction fun fails => ?_
    have failure := follows.failure fun delivered => fails (succeeds delivered)
    exact failure.ne_ok value isData

/-- An outcome still follows the body when its data is changed. -/
theorem Follows.map {answer : Except ExchangeFailure (Nat × String)}
    {outcome : Except ResolverError Json} (follows : Follows answer outcome) (change : Json → Json) :
    Follows answer (outcome.map change) := by
  refine ⟨fun delivered => ?_, fun undelivered => ?_⟩
  · obtain ⟨value, rfl⟩ := follows.data delivered
    exact ⟨change value, rfl⟩
  · obtain ⟨errors, present, rfl⟩ := follows.failure undelivered
    exact ⟨errors, present, rfl⟩

/-! ## Responses -/

/-- An error that says what went wrong, with a code. -/
def coded (message code : String) : ResponseError where
  message := message
  extensions := [("code", .str code)]

/-- The response that an answer stands for: the one that is its body, whatever its status, and one
error with a code where there is no response. -/
inductive Reads : Except ExchangeFailure (Nat × String) → Response → Prop where
  | response {status : Nat} {body : String} {response : Response}
      (read : Response.ofText? body = some response) : Reads (.ok (status, body)) response
  | malformed {status : Nat} {body : String} {message : String}
      (unread : Response.ofText? body = none) (success : 200 ≤ status ∧ status < 300) :
      Reads (.ok (status, body)) { errors := [coded message "SUBREQUEST_MALFORMED_RESPONSE"] }
  | denied {status : Nat} {body : String} {message : String}
      (unread : Response.ofText? body = none) (denied : ¬ (200 ≤ status ∧ status < 300)) :
      Reads (.ok (status, body)) { errors := [coded message "SUBREQUEST_HTTP_ERROR"] }
  | incomplete {cause : ExchangeFailure} {message : String} :
      Reads (.error cause) { errors := [coded message "SUBREQUEST_HTTP_ERROR"] }

/-- What forwarding makes of an answer: the data of its response, or the errors of it. -/
inductive Gives (answer : Except ExchangeFailure (Nat × String)) :
    Except ResolverError Json → Prop where
  | data {response : Response} (reads : Reads answer response) (clean : response.errors = []) :
      Gives answer (.ok (response.data.getD .null))
  | failure {response : Response} (reads : Reads answer response) (faulty : response.errors ≠ []) :
      Gives answer (.error (.remote response.errors))

/-- A body that is a response stands for itself. -/
theorem Reads.eq_of_read {status : Nat} {body : String} {response other : Response}
    (reads : Reads (.ok (status, body)) response) (read : Response.ofText? body = some other) :
    response = other := by
  cases reads with
  | response again =>
      cases again.symm.trans read
      rfl
  | malformed unread => cases unread.symm.trans read
  | denied unread => cases unread.symm.trans read

/-- The response of an answer has no errors just where the body is such a response. -/
theorem Reads.errors_eq_nil_iff {answer : Except ExchangeFailure (Nat × String)}
    {response : Response} (reads : Reads answer response) :
    response.errors = [] ↔ IsDelivered answer := by
  constructor
  · intro clean
    cases reads with
    | @response status body response read => exact ⟨status, body, rfl, response, read, clean⟩
    | malformed => cases clean
    | denied => cases clean
    | incomplete => cases clean
  · rintro ⟨status, body, rfl, other, read, clean⟩
    rw [reads.eq_of_read read, clean]

/-- What follows the body fails just where the response of the answer has errors. -/
theorem Follows.fails_iff {answer : Except ExchangeFailure (Nat × String)}
    {outcome : Except ResolverError Json} {response : Response} (follows : Follows answer outcome)
    (reads : Reads answer response) : (∃ error, outcome = .error error) ↔ response.errors ≠ [] := by
  rw [Ne, reads.errors_eq_nil_iff]
  constructor
  · rintro ⟨error, failed⟩ delivered
    obtain ⟨value, isData⟩ := follows.data delivered
    cases failed.symm.trans isData
  · intro undelivered
    obtain ⟨errors, -, failed⟩ := follows.failure undelivered
    exact ⟨.remote errors, failed⟩

/-- What forwarding makes of an answer fails with the errors of its response. -/
theorem Gives.errors_eq {answer : Except ExchangeFailure (Nat × String)}
    {outcome : Except ResolverError Json} {error : ResolverError} (gives : Gives answer outcome)
    (failed : outcome = .error error) :
    ∃ response, error = .remote response.errors ∧ Reads answer response := by
  cases gives with
  | data => cases failed
  | @failure response reads =>
      cases failed
      exact ⟨response, rfl, reads⟩

/-- What forwarding makes of an answer follows the body. -/
theorem Gives.follows {answer : Except ExchangeFailure (Nat × String)}
    {outcome : Except ResolverError Json} (gives : Gives answer outcome) :
    Follows answer outcome := by
  cases gives with
  | @data response reads clean =>
      exact ⟨fun _ => ⟨_, rfl⟩,
        fun undelivered => absurd (reads.errors_eq_nil_iff.1 clean) undelivered⟩
  | @failure response reads faulty =>
      exact ⟨fun delivered => absurd (reads.errors_eq_nil_iff.2 delivered) faulty,
        fun _ => ⟨response.errors, faulty, rfl⟩⟩

/-- The response that is made of what came back. -/
def responseTo (url : Url) : Except ExchangeFailure (Nat × String) → Response
  | .ok (status, body) => readAnswer url status body
  | .error cause => failed url cause.message

/-- It is the response that the answer stands for. -/
theorem reads_responseTo (url : Url) (answer : Except ExchangeFailure (Nat × String)) :
    Reads answer (responseTo url answer) := by
  cases answer with
  | error cause => exact .incomplete
  | ok received =>
      obtain ⟨status, body⟩ := received
      unfold responseTo readAnswer
      dsimp only
      cases read : Response.ofText? body with
      | some response => exact .response read
      | none =>
          cases success : Status.isSuccess status with
          | true => exact .malformed read (by simpa [Status.isSuccess] using success)
          | false => exact .denied read (by simpa [Status.isSuccess] using success)

/-! ## Forwarding -/

/-- A post brings back what it is to bring back, and leaves the origin as it is to be left. -/
theorem run_send (post : Post) (origin : Origin) :
    Brings origin post ((send post).run origin).1 ∧
      ((send post).run origin).2 = origin.after post := by
  cases received : origin.receives post with
  | false =>
      have left : origin.after post = origin := by simp [after, received]
      rw [left]
      cases requestable : isRequestable post.url with
      | false =>
          simp only [StateT.run, send, requestable]
          exact ⟨.notMade requestable, rfl⟩
      | true =>
          have deaf : origin.isListening = false := by simpa [receives, requestable] using received
          simp only [StateT.run, send, requestable, deaf]
          exact ⟨.unreached requestable deaf, rfl⟩
  | true =>
      have left : origin.after post = { origin with
          replies := origin.replies.drop 1, received := origin.received ++ [post] } := by
        simp [after, received]
      obtain ⟨requestable, listening⟩ := Bool.and_eq_true_iff.1 received
      rw [left]
      simp only [StateT.run, send, requestable, listening]
      cases ready : origin.replies.head? with
      | none => exact ⟨.closed received (.inr ready), rfl⟩
      | some reply =>
          cases reply with
          | response status body => exact ⟨.response received ready, rfl⟩
          | truncated => exact ⟨.truncated received ready, rfl⟩
          | closed => exact ⟨.closed received (.inl ready), rfl⟩

variable (url : Url) (headers : Headers) (request : Request) (origin : Origin)

theorem brings_answer :
    Brings origin (postOf url headers request) (origin.answer url headers request) :=
  (run_send (postOf url headers request) origin).1

/-- The answer that is ready comes back for a request that the origin gets. -/
theorem answer_of_reply {url : Url} {headers : Headers} {request : Request} {origin : Origin}
    {status : Nat} {body : String} (received : origin.receives (postOf url headers request) = true)
    (ready : origin.replies.head? = some (.response status body)) :
    origin.answer url headers request = .ok (status, body) :=
  (brings_answer url headers request origin).eq (.response received ready)

/-- An answer that is delivered is one to a request that the origin gets. -/
theorem receives_of_isDelivered (delivered : IsDelivered (origin.answer url headers request)) :
    origin.receives (postOf url headers request) = true := by
  obtain ⟨status, body, answered, -⟩ := delivered
  have brings := brings_answer url headers request origin
  rw [answered] at brings
  cases brings with
  | response received => exact received

/-- A question is one post, and what comes back makes the response. -/
theorem run_ask :
    (ask url headers request).run origin =
      (responseTo url (origin.answer url headers request),
        origin.after (postOf url headers request)) := by
  rw [← (run_send (postOf url headers request) origin).2]
  unfold ask answer
  rw [StateT.run_bind]
  rcases (send (postOf url headers request)).run origin with ⟨received | cause, after⟩
  · rfl
  · rfl

/-- Forwarding is one post too, and gives the data of the response or its errors. -/
theorem run_forward :
    (forward url headers request).run origin =
      (let response := responseTo url (origin.answer url headers request)
        if response.hasErrors then .error (.remote response.errors)
        else .ok (response.data.getD .null),
        origin.after (postOf url headers request)) := by
  unfold forward
  rw [StateT.run_bind, run_ask]
  generalize responseTo url (origin.answer url headers request) = response
  generalize origin.after (postOf url headers request) = after
  obtain ⟨data, errors⟩ := response
  cases errors <;> rfl

/-- Forwarding makes of the answer what is to be made of it. -/
theorem forward_gives :
    Gives (origin.answer url headers request) ((forward url headers request).run origin).1 := by
  rw [run_forward]
  have reads := reads_responseTo url (origin.answer url headers request)
  generalize responseTo url (origin.answer url headers request) = response at reads
  dsimp only
  split
  next errs => exact .failure reads (by simpa [Response.hasErrors] using errs)
  next none => exact .data reads (by simpa [Response.hasErrors] using none)

/-- Forwarding follows the body of the answer. -/
theorem forward_follows :
    Follows (origin.answer url headers request) ((forward url headers request).run origin).1 :=
  (forward_gives url headers request origin).follows

end Origin

namespace Resolver

open Origin

/-- A proxy forwards the client's query and picks the entry of its field. -/
theorem run_proxy (url : Url) (field : String) (context : ResolverContext) (origin : Origin) :
    ((proxy url field).resolve context).run origin =
      Prod.map (Except.map (Json.member field)) id ((forward url []
        { query := context.query, variableValues := some context.variableValues }).run origin) := by
  unfold resolve forward
  simp only [StateT.run_bind]
  rcases (ask url [] _).run origin with ⟨⟨data, errors⟩, after⟩
  cases errors with
  | cons error errors => rfl
  | nil => cases data <;> rfl

/-- A proxy follows the body of the answer to the client's query. -/
theorem proxy_follows (url : Url) (field : String) (context : ResolverContext) (origin : Origin) :
    Follows
      (origin.answer url []
        { query := context.query, variableValues := some context.variableValues })
      (((proxy url field).resolve context).run origin).1 := by
  rw [run_proxy, Prod.map_fst]
  exact (forward_follows url [] _ origin).map (Json.member field)

end Resolver

namespace Origin

/-- Forwarding and proxies turn no failure of the origin into data, and report every failure with an
error, exactly where the origin does not send a response without errors under a status that denies
success. -/
theorem faithful_iff (url : Url) (headers : Headers) (request : Request) (field : String)
    (context : ResolverContext) (origin : Origin) :
    (IsFaithful (origin.answer url headers request) ((forward url headers request).run origin).1 ↔
      ¬ DeniesSuccess (origin.answer url headers request)) ∧
    (IsFaithful
        (origin.answer url []
          { query := context.query, variableValues := some context.variableValues })
        (((Resolver.proxy url field).resolve context).run origin).1 ↔
      ¬ DeniesSuccess
        (origin.answer url []
          { query := context.query, variableValues := some context.variableValues })) :=
  ⟨(forward_follows url headers request origin).isFaithful_iff,
    (Resolver.proxy_follows url field context origin).isFaithful_iff⟩

/-- A service that is about to fail, with a body that is an object. -/
def failing : Origin := { replies := [.response 500 "\x7b\"message\":\"oops\"\x7d"] }

/-- A place to reach a service at. -/
def localUrl : Url := { scheme := .http, host := .domain "localhost", segments := ["graphql"] }

/-- A request to this place is received there. -/
theorem receives_localUrl {origin : Origin} (listens : origin.isListening = true)
    (headers : Headers) (request : Request) :
    origin.receives (postOf localUrl headers request) = true := by
  have requestable : isRequestable localUrl.withoutLogin = true := by decide +kernel
  exact Bool.and_eq_true_iff.2 ⟨requestable, listens⟩

theorem answer_failing (request : Request) :
    failing.answer localUrl [] request = .ok (500, "\x7b\"message\":\"oops\"\x7d") :=
  answer_of_reply (receives_localUrl rfl [] request) rfl

theorem isClean_failing : IsClean "\x7b\"message\":\"oops\"\x7d" := by
  have clean : (Response.ofText? "\x7b\"message\":\"oops\"\x7d").map (·.errors.isEmpty) =
      some true := by
    decide +kernel
  obtain ⟨response, read, empty⟩ := Option.map_eq_some_iff.1 clean
  exact ⟨response, read, List.isEmpty_iff.1 empty⟩

/-- The failure of a service is turned into data, both by forwarding and by a proxy. -/
theorem not_faithful_failing :
    ¬ IsFaithful (failing.answer localUrl [] { query := "\x7b hello \x7d" })
        ((forward localUrl [] { query := "\x7b hello \x7d" }).run failing).1 ∧
      ¬ IsFaithful
        (failing.answer localUrl [] { query := "\x7b hello \x7d", variableValues := some [] })
        (((Resolver.proxy localUrl "hello").resolve { query := "\x7b hello \x7d" }).run
          failing).1 := by
  have denied (request : Request) : DeniesSuccess (failing.answer localUrl [] request) :=
    ⟨500, _, answer_failing request, by decide, isClean_failing⟩
  have forwarded := forward_follows localUrl [] { query := "\x7b hello \x7d" } failing
  have proxied := Resolver.proxy_follows localUrl "hello" { query := "\x7b hello \x7d" } failing
  exact ⟨fun faithful => forwarded.isFaithful_iff.1 faithful (denied _),
    fun faithful => proxied.isFaithful_iff.1 faithful (denied _)⟩

end Origin

end Subgraph
