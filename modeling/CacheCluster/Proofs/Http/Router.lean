import CacheCluster.Http.Router

/-!
# What routers answer

The answer of a router is the one of the route of the path, opened to all origins.  The state
changes only by what that route does, and only when it takes the method of the request.

## Main definitions

* `Response.opened` : a response that every origin may read.

## Main results

* `serve_of_takes` : the answer to a request that the route of its path takes.
* `serve_post` : the answer to a `POST`.
* `serve_state` : the state after any request.
-/

namespace CacheCluster.Http

variable {σ : Type} {routes : List (Route σ)} {q : Request} {r : Route σ}

/-- A response that every origin may read. -/
def Response.opened (r : Response) : Response := { r with headers := r.headers ++ openHeaders }

/-- No route takes a request for the options. -/
theorem Method.options_notMem_names (m : Method) : m.names.contains "OPTIONS" = false := by
  cases m <;> decide

/-- The answer to a request that the route of its path takes. -/
theorem serve_of_takes (hfind : (routes.find? fun r => r.path == q.path) = some r)
    (htakes : r.method.names.contains q.method = true) (hhead : q.method ≠ "HEAD") (s : σ) :
    serve routes q s = ((r.handle q s).1.opened, (r.handle q s).2) := by
  have hoptions : q.method ≠ "OPTIONS" := by
    intro h
    rw [h, r.method.options_notMem_names] at htakes
    cases htakes
  have hanswer : r.answer q s = r.handle q s := by
    rw [Route.answer, if_pos htakes]
    simp only [if_neg hhead]
  rw [serve, if_neg hoptions, hfind]
  simp only [hanswer]
  rfl

theorem serve_post (hq : q.method = "POST") (hr : r.method = .post)
    (hfind : (routes.find? fun r => r.path == q.path) = some r) (s : σ) :
    serve routes q s = ((r.handle q s).1.opened, (r.handle q s).2) := by
  refine serve_of_takes hfind ?_ ?_ s
  · rw [hr, hq]
    decide
  · rw [hq]
    decide

/-- The state after a request is what the route of its path makes of it, if the route takes it. -/
theorem serve_state (routes : List (Route σ)) (q : Request) (s : σ) :
    (serve routes q s).2 =
      match routes.find? fun r => r.path == q.path with
      | some r => if r.method.names.contains q.method then (r.handle q s).2 else s
      | none => s := by
  unfold serve
  dsimp only
  split
  · rename_i hoptions
    rw [hoptions]
    cases routes.find? fun r => r.path == q.path with
    | none => rfl
    | some r => simp only [r.method.options_notMem_names, Bool.false_eq_true, if_false]
  · cases routes.find? fun r => r.path == q.path with
    | none => rfl
    | some r =>
      dsimp only
      rw [Route.answer]
      split <;> rfl

end CacheCluster.Http
