import Subgraph.Proofs.Forward
import Subgraph.Proofs.Message

/-!
# What a proxy does

A proxy forwards the query of the client and picks the entry of its field.  What
the origin reports as errors arrives unchanged, in the failure and in the error
that is made of it.

* `Resolver.Relays` is all that is expected of a proxy, and
  `Resolver.proxy_relays` that it does so.
-/

namespace Subgraph

open Json

namespace Origin

/-- All errors of the response that an answer stands for are placed. -/
theorem Reads.isPlaced {answer : Except ExchangeFailure (Nat × String)} {response : Response}
    (reads : Reads answer response) : response.IsPlaced := by
  have single {message code : String} :
      Response.IsPlaced { errors := [coded message code] } := by
    intro error inside
    obtain rfl := List.mem_singleton.1 inside
    intro location among
    cases among
  cases reads with
  | response read => exact Response.isPlaced_of_ofText? read
  | malformed => exact single
  | denied => exact single
  | incomplete => exact single

end Origin

open Origin

/-- What a proxy asks for a context. -/
def ResolverContext.request (context : ResolverContext) : Request :=
  { query := context.query, variableValues := some context.variableValues }

/-- The request of a context is plain when its variables are. -/
theorem ResolverContext.isPlain_request {context : ResolverContext} {levels : Nat}
    (plain : IsPlain levels (.obj context.variableValues)) :
    IsPlain (levels + 1) context.request.toJson := by
  change IsPlain (levels + 1)
    (.obj [("query", .str context.query), ("variables", .obj context.variableValues)])
  refine .obj (by simp) ?_
  rw [List.forall_mem_cons, List.forall_mem_singleton]
  exact ⟨.str _, plain⟩

namespace Resolver

/-- All that is expected of a proxy for a field of an origin. -/
structure Relays (url : Url) (field : String) (context : ResolverContext) (origin : Origin)
    (outcome : Except ResolverError Json × Origin) : Prop where
  /-- The origin gets a single post, if it gets to it, and nothing else. -/
  after : outcome.2 = origin.after (postOf url [] context.request)
  /-- What comes back is the answer that is ready, or why there is none. -/
  brings : Brings origin (postOf url [] context.request) (origin.answer url [] context.request)
  /-- No header field of the context is sent. -/
  headers : (postOf url [] context.request).headers =
    url.authorization ++ [("content-type", "application/json")]
  /-- It makes no difference which ones there are. -/
  regardless : ∀ headers,
    ((proxy url field).resolve { context with headers := headers }).run origin = outcome
  /-- The body is read as the query and the variables by everyone who allows their nesting. -/
  body : ∀ levels, IsPlain levels (.obj context.variableValues) → ∀ limit,
    Request.readWithin? limit (postOf url [] context.request).body = some context.request ↔
      context.request.toJson.depth ≤ limit
  /-- Forwarding gives the data or the errors of the response that the answer stands for. -/
  forwarded : Gives (origin.answer url [] context.request)
    ((forward url [] context.request).run origin).1
  /-- The outcome is the one of forwarding, with the entry of the field in place of the data. -/
  projection : outcome = Prod.map (Except.map (Json.member field)) id
    ((forward url [] context.request).run origin)
  /-- So the body of the answer decides whether there is data or a failure. -/
  follows : Follows (origin.answer url [] context.request) outcome.1
  /-- It is a failure just if the response has errors. -/
  fails_iff : ∀ response, Reads (origin.answer url [] context.request) response →
    ((∃ error, outcome.1 = .error error) ↔ response.errors ≠ [])
  /-- And so is forwarding. -/
  forward_fails_iff : ∀ response, Reads (origin.answer url [] context.request) response →
    ((∃ error, ((forward url [] context.request).run origin).1 = .error error) ↔
      response.errors ≠ [])
  /-- The errors of a failure are those of the response. -/
  reports : ∀ error, outcome.1 = .error error →
    ∃ response, error = .remote response.errors ∧
      Reads (origin.answer url [] context.request) response
  /-- They are read back from the error that is made of the failure. -/
  readable : ∀ error, outcome.1 = .error error → ∃ values,
    Assoc.find? "errors" error.toResponseError.extensions = some (.arr values) ∧
      values.mapM ResponseError.ofJson = .ok error.errors

variable (url : Url) (field : String) (context : ResolverContext) (origin : Origin)

/-- A proxy fails with the errors of the response that the answer stands for. -/
theorem errors_eq_of_proxy_fails {error : ResolverError}
    (failed : (((proxy url field).resolve context).run origin).1 = .error error) :
    ∃ response, error = .remote response.errors ∧
      Reads (origin.answer url [] context.request) response := by
  rw [run_proxy, Prod.map_fst, map_eq_error_iff] at failed
  exact (forward_gives url [] context.request origin).errors_eq failed

/-- A proxy does what is expected of it. -/
theorem proxy_relays :
    Relays url field context origin (((proxy url field).resolve context).run origin) where
  after := by
    rw [run_proxy, Prod.map_snd, id_eq, run_forward]
    rfl
  brings := brings_answer url [] context.request origin
  headers := rfl
  regardless _ := rfl
  body levels plain limit := by
    rw [postOf, Request.readWithin?_body (context.isPlain_request plain) limit]
    split
    next within => exact ⟨fun _ => within, fun _ => rfl⟩
    next beyond => exact ⟨nofun, fun within => absurd within beyond⟩
  forwarded := forward_gives url [] context.request origin
  projection := run_proxy url field context origin
  follows := proxy_follows url field context origin
  fails_iff _ reads := (proxy_follows url field context origin).fails_iff reads
  forward_fails_iff _ reads := (forward_follows url [] context.request origin).fails_iff reads
  reports _ failed := errors_eq_of_proxy_fails url field context origin failed
  readable error failed := by
    obtain ⟨response, rfl, reads⟩ := errors_eq_of_proxy_fails url field context origin failed
    exact ⟨_, rfl, mapM_map_eq_ok fun one inside =>
      ResponseError.ofJson_toJson (reads.isPlaced one inside)⟩

/-- A question with a variable and with a header field of the client. -/
def asking : ResolverContext where
  query := "query ($id: Int) \x7b hello(id: $id) \x7d"
  variableValues := [("id", .int 7)]
  headers := [("authorization", "Basic Og==")]

/-- A service that is about to fail, with a response. -/
def refusing : Origin where
  replies := [.response 500 "\x7b\"errors\":[\x7b\"message\":\"not allowed\"\x7d]\x7d"]

/-- The origin gets one post.  The query and the variable are read from its body, and the login of
the client is not in it.  The error that comes back is the one of the failure. -/
theorem proxy_relays_asking :
    IsPlain 1 (.obj asking.variableValues) ∧
    (((proxy localUrl "hello").resolve asking).run refusing).2.received =
      [postOf localUrl [] asking.request] ∧
    (postOf localUrl [] asking.request).headers = [("content-type", "application/json")] ∧
    Request.ofText? (postOf localUrl [] asking.request).body = some asking.request ∧
    ∃ errors, (((proxy localUrl "hello").resolve asking).run refusing).1 = .error (.remote errors) ∧
      errors.map (·.message) = ["not allowed"] := by
  have relays := proxy_relays localUrl "hello" asking refusing
  have plain : IsPlain 1 (.obj asking.variableValues) := by
    refine .obj (by decide) ?_
    intro member inside
    obtain rfl := List.mem_singleton.1 inside
    exact .int (by decide)
  have received : refusing.receives (postOf localUrl [] asking.request) = true :=
    receives_localUrl rfl [] asking.request
  have noLogin : localUrl.authorization = [] := by decide +kernel
  refine ⟨plain, ?_, ?_, ?_, ?_⟩
  · rw [relays.after, Origin.after, if_pos received]
    rfl
  · rw [relays.headers, noLogin]
    rfl
  · rw [Request.ofText?_eq_readWithin?]
    exact (relays.body 1 plain _).2 (by decide)
  · have refusal : (Response.ofText?
        "\x7b\"errors\":[\x7b\"message\":\"not allowed\"\x7d]\x7d").map
          (·.errors.map (·.message)) = some ["not allowed"] := by
      decide +kernel
    obtain ⟨response, read, messages⟩ := Option.map_eq_some_iff.1 refusal
    have answered := answer_of_reply received rfl
    have reads : Reads (refusing.answer localUrl [] asking.request) response := by
      rw [answered]
      exact .response read
    have faulty : response.errors ≠ [] := by
      intro clean
      rw [clean] at messages
      cases messages
    obtain ⟨error, failed⟩ := (relays.fails_iff response reads).2 faulty
    obtain ⟨same, rfl, again⟩ := relays.reports error failed
    rw [answered] at again
    exact ⟨same.errors, failed, by rw [again.eq_of_read read, messages]⟩

end Resolver

end Subgraph
