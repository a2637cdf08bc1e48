import Lxd.Go.Strings

/-!
# The request context (`lxd/request`)

LXD keeps per-request values in the request's `context.Context`. `SetContextValue` wraps the
request's context in one more `context.WithValue` layer, and `ctx.Value(key)` returns the value
of the innermost layer with that key. `GetContextValue[T]` reads a value back with a type
assertion. `InitContextInfo` stores a new `*Info` under `CtxRequestInfo`, and
`IsRequestContext` checks that one is there. `CtxRequestInfo` is the parameter `infoKey`.

* `value_setContextValues`: after any run of `SetContextValue` calls, a key holds the value the
  last call for it stored, or what the context held before.
* `isRequestContext_setContextValues`: after `InitContextInfo` and any run of calls, the context
  is a request context exactly when no call stored under `CtxRequestInfo` again, or the last one
  stored a non-nil `*Info`.
-/

namespace Lxd

namespace Request

open Go

/-- A Go `any`: `nil`, a nil pointer of a type, or another value of a type. -/
inductive Any (V : Type)
  | nil
  | nilPtr (type : String)
  | val (type : String) (v : V)
  deriving DecidableEq, Repr

/-- `%T` of an `any`. -/
def Any.goType {V : Type} : Any V → String
  | .nil => "<nil>"
  | .nilPtr type => type
  | .val type _ => type

/-- A `context.Context` as its `context.WithValue` layers, the innermost first, each keyed by a
`CtxKey`. -/
abbrev Context (V : Type) := List (String × Any V)

section

variable {V : Type}

/-- `ctx.Value(key)`. -/
def Context.value (ctx : Context V) (key : String) : Any V := (ctx.lookup key).getD .nil

/-- `SetContextValue(r, key, value)`: the request's context after the call. -/
def setContextValue (ctx : Context V) (key : String) (value : Any V) : Context V :=
  (key, value) :: ctx

/-- `GetContextValue[T](ctx, key)` for a type `T` that `%T` prints as `ty`. -/
def getContextValue (ty : String) (ctx : Context V) (key : String) : Except String (Any V) :=
  match ctx.value key with
  | .nil => .error ("Failed to get expected value " ++ quote key ++ " from context")
  | v =>
    if v.goType = ty then .ok v
    else .error ("Value for context key " ++ quote key ++ " has incorrect type (expected " ++ ty ++
      ", got " ++ v.goType ++ ")")

def infoType : String := "*request.Info"

/-- `InitContextInfo(r)`, with `info` the new `&Info{}`. -/
def initContextInfo (infoKey : String) (ctx : Context V) (info : V) : Context V :=
  setContextValue ctx infoKey (.val infoType info)

/-- `GetContextInfo(ctx)`: the `*Info` stored under `CtxRequestInfo`, `none` for `nil`. -/
def getContextInfo (infoKey : String) (ctx : Context V) : Option V :=
  match ctx.value infoKey with
  | .val type info => if type = infoType then some info else none
  | _ => none

/-- `IsRequestContext(ctx)`; `none` is a nil context. -/
def isRequestContext (infoKey : String) : Option (Context V) → Bool
  | none => false
  | some ctx => (getContextInfo infoKey ctx).isSome

/-- A run of `SetContextValue` calls, in order. -/
def setContextValues (ctx : Context V) (calls : List (String × Any V)) : Context V :=
  calls.foldl (fun c kv => setContextValue c kv.1 kv.2) ctx

/-! ## Reading values back -/

theorem value_setContextValue (ctx : Context V) (key k : String) (v : Any V) :
    (setContextValue ctx k v).value key = if key = k then v else ctx.value key := by
  by_cases h : key = k
  · simp [setContextValue, Context.value, h]
  · have hne : (key == k) = false := by simpa using h
    simp [setContextValue, Context.value, List.lookup_cons, hne, h]

/-- After a run of calls, a key holds what the last call for it stored, or what it held before. -/
theorem value_setContextValues (ctx : Context V) (calls : List (String × Any V)) (key : String) :
    (setContextValues ctx calls).value key = (calls.reverse.lookup key).getD (ctx.value key) := by
  induction calls using List.reverseRecOn with
  | nil => rfl
  | append_singleton calls kv ih =>
    obtain ⟨k, v⟩ := kv
    rw [setContextValues, List.foldl_append, List.foldl_cons, List.foldl_nil,
      value_setContextValue, ← setContextValues, ih, List.reverse_append]
    by_cases h : key = k
    · simp [h]
    · have hne : (key == k) = false := by simpa using h
      simp [h, List.lookup_cons, hne]

/-- After `InitContextInfo` and any run of calls, the context is a request context exactly when
no call stored under `CtxRequestInfo` again, or the last one stored a non-nil `*Info`. -/
theorem isRequestContext_setContextValues (infoKey : String) (ctx : Context V) (info : V)
    (calls : List (String × Any V)) :
    isRequestContext infoKey (some (setContextValues (initContextInfo infoKey ctx info) calls)) =
      match calls.reverse.lookup infoKey with
      | none => true
      | some (.val type _) => type == infoType
      | some _ => false := by
  simp only [isRequestContext, getContextInfo, value_setContextValues, initContextInfo,
    value_setContextValue, if_pos]
  rcases calls.reverse.lookup infoKey with _ | (_ | _ | ⟨type, _⟩)
  · rfl
  · rfl
  · rfl
  · by_cases h : type = infoType <;> simp [h]

end

end Request

end Lxd
