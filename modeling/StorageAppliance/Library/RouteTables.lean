import Mathlib.Data.List.Infix

/-!
# Route tables

A request has a method and a path, which is a list of parts.  A route takes the
paths of one shape, whose parameters stand for any part that is not empty.

`dispatch` is the plain way to use a table: the first route with the method of
the request that takes its path handles it.  If routes with other methods take
the path, the method is not allowed, and otherwise nothing is found.

`endsTake_of_append` looks at the end of a path alone, whatever is put before it.
-/

namespace StorageAppliance.Library

/-- One part of the shape of a path. -/
inductive PathPart where
  | literal (text : String)
  | parameter (name : String)
deriving DecidableEq

/-- The parts of a path that a part of the shape stands for. -/
def PathPart.takes : PathPart → String → Bool
  | .literal text, part => text = part
  | .parameter _, part => part ≠ ""

/-- The paths of a shape. -/
def takesPath : List PathPart → List String → Bool
  | [], [] => true
  | shape :: shapes, part :: parts =>
      shape.takes part && takesPath shapes parts
  | [], _ :: _ => false
  | _ :: _, [] => false

/-- The parts of a shape, from some part on, take the path. -/
def endsTake (shapes : List PathPart) (path : List String) : Bool :=
  shapes.tails.any fun tail => takesPath tail path

/-- A route: its method, the shape of its paths, and what handles them. -/
structure Route (Method Handler : Type) where
  method : Method
  path : List PathPart
  handler : Handler

/-- What becomes of a request. -/
inductive Dispatched (Handler : Type) where
  | handled (handler : Handler)
  | methodNotAllowed
  | notFound
deriving DecidableEq

section Tables

variable
    {Method Handler : Type}
    [DecidableEq Method]

/-- Put a prefix before the paths of routes. -/
def includeRoutes (before : List PathPart)
    (routes : List (Route Method Handler)) :
    List (Route Method Handler) :=
  routes.map fun route => { route with path := before ++ route.path }

/-- Find the route for a request. -/
def dispatch (routes : List (Route Method Handler)) (method : Method)
    (path : List String) : Dispatched Handler :=
  let taking := routes.filter fun route => takesPath route.path path
  match taking.find? fun route => route.method = method with
  | some route => .handled route.handler
  | none => if taking.isEmpty then .notFound else .methodNotAllowed

variable
    {routes : List (Route Method Handler)}
    {method : Method}
    {handler : Handler}
    {path before : List String}

/-! ## Ends of paths -/

/-- A shape that takes a path takes what follows some part of it. -/
theorem endsTake_of_append (shapes : List PathPart)
    (taken : takesPath shapes (before ++ path) = true) :
    endsTake shapes path = true := by
  induction before generalizing shapes with
  | nil =>
      rw [endsTake, List.any_eq_true]
      exact ⟨shapes, (List.mem_tails shapes shapes).mpr List.suffix_rfl, taken⟩
  | cons part parts induction =>
      cases shapes with
      | nil => cases taken
      | cons shape shapes =>
          have later : takesPath shapes (parts ++ path) = true :=
            (Bool.and_eq_true_iff.mp taken).2
          have found := induction shapes later
          rw [endsTake, List.any_eq_true] at found ⊢
          rcases found with ⟨tail, suffix, takes⟩
          refine ⟨tail, (List.mem_tails _ _).mpr ?_, takes⟩
          exact ((List.mem_tails _ _).mp suffix).trans
            (List.suffix_cons shape shapes)

/-! ## Handled requests -/

/-- A request that is handled is taken by a route of its method. -/
theorem takes_of_dispatch
    (handled : dispatch routes method path = .handled handler) :
    ∃ route ∈ routes,
      route.method = method ∧ takesPath route.path path = true := by
  rw [dispatch] at handled
  cases found :
      (routes.filter fun route => takesPath route.path path).find?
        fun route => route.method = method with
  | none =>
      simp only [found] at handled
      split at handled <;> cases handled
  | some route =>
      have taking := List.mem_of_find?_eq_some found
      rw [List.mem_filter] at taking
      have same := List.find?_some found
      exact ⟨route, taking.1, of_decide_eq_true same, taking.2⟩

end Tables

end StorageAppliance.Library
