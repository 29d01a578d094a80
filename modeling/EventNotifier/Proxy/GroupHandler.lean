import EventNotifier.Data

/-!
# The endpoint group handler

`groupHandler` (`proxy/handlers/base.go`) collects the HTTP endpoints of the notifier's API by
base path. `AddEndpointHandlers` stores a route's list of handlers, replacing what was stored
for that route before, and `RegisterEndpoints` ranges over the map, opens a router group per
route and calls `Handle` on it once per stored handler, in the stored order.

The model returns the `Handle` calls `RegisterEndpoints` makes, for the order `range` visits
the routes in. `registerEndpoints_groups` says what every route's group receives after any
sequence of `AddEndpointHandlers` calls, whatever that order: the handlers of the last call for
the route, each once and in order, and nothing for a route never added.
-/

set_option autoImplicit false

namespace EventNotifier.Proxy

/-- `handlers.EndpointHandler`; the handler function is known by its identity. -/
structure EndpointHandler where
  path : String
  method : String
  handlerFunc : Nat
  deriving DecidableEq, Repr

/-- `groupHandler`: the handlers of each base path. -/
structure GroupHandler where
  endpointHandlersMap : GoMap String (List EndpointHandler)

/-- `NewGroupHandler()`. -/
def newGroupHandler : GroupHandler := ⟨∅⟩

/-- A call `routerGroup.Handle(h.Method, h.Path, h.HandlerFunc)` on the group of `route`. -/
structure HandleCall where
  route : String
  method : String
  path : String
  handlerFunc : Nat
  deriving DecidableEq, Repr

/-- The call `RegisterEndpoints` makes for handler `h` of `route`. -/
def handleCall (route : String) (h : EndpointHandler) : HandleCall :=
  ⟨route, h.method, h.path, h.handlerFunc⟩

namespace GroupHandler

/-- `AddEndpointHandlers(route, handlers)`. -/
def addEndpointHandlers (g : GroupHandler) (route : String) (handlers : List EndpointHandler) :
    GroupHandler :=
  ⟨g.endpointHandlersMap.insert route handlers⟩

/-- `RegisterEndpoints(r)`: the `Handle` calls, when `range` visits the routes in
`rangeOrder`. -/
def registerEndpoints (g : GroupHandler) (rangeOrder : List String) : List HandleCall :=
  rangeOrder.flatMap fun route =>
    ((g.endpointHandlersMap.lookup route).getD []).map (handleCall route)

end GroupHandler

/-- The handler group after a sequence of `AddEndpointHandlers` calls on a new group
handler. -/
def addAll (adds : List (String × List EndpointHandler)) : GroupHandler :=
  adds.foldl (fun g a => g.addEndpointHandlers a.1 a.2) newGroupHandler

/-- The handlers the last `AddEndpointHandlers` call for `route` gave, if there was one. -/
def lastHandlers (adds : List (String × List EndpointHandler)) (route : String) :
    Option (List EndpointHandler) :=
  (adds.filter fun a => a.1 = route).getLast?.map Prod.snd

/-! ## The map the calls build -/

theorem lookup_addAll (adds : List (String × List EndpointHandler)) (route : String) :
    (addAll adds).endpointHandlersMap.lookup route = lastHandlers adds route := by
  induction adds using List.reverseRecOn with
  | nil => rfl
  | append_singleton adds a ih =>
      rw [addAll, List.foldl_append, ← addAll, List.foldl_cons, List.foldl_nil,
        GroupHandler.addEndpointHandlers, lookup_insert_ite, ih, lastHandlers, lastHandlers,
        List.filter_append, List.filter_singleton]
      by_cases h : route = a.1
      · simp [h]
      · simp [h, Ne.symm h]

/-! ## What the groups receive -/

theorem filter_map_handleCall (route route' : String) (hs : List EndpointHandler) :
    (hs.map (handleCall route)).filter (fun c => c.route = route') =
      if route = route' then hs.map (handleCall route) else [] := by
  rw [List.filter_map]
  split <;> simp [Function.comp_def, handleCall, *]

/-- Over a range order that visits each route once, a route's calls are those of its stored
handlers if the order visits it, and none otherwise. -/
theorem filter_registerEndpoints (g : GroupHandler) {rangeOrder : List String}
    (hnodup : rangeOrder.Nodup) (route : String) :
    (g.registerEndpoints rangeOrder).filter (fun c => c.route = route) =
      if route ∈ rangeOrder then
        ((g.endpointHandlersMap.lookup route).getD []).map (handleCall route)
      else [] := by
  induction rangeOrder with
  | nil => rfl
  | cons r rs ih =>
      obtain ⟨hr, hrs⟩ := List.nodup_cons.1 hnodup
      rw [GroupHandler.registerEndpoints, List.flatMap_cons, ← GroupHandler.registerEndpoints,
        List.filter_append, ih hrs, filter_map_handleCall]
      by_cases h : r = route
      · subst h
        simp [hr]
      · simp [h, Ne.symm h]

/-- For every sequence of `AddEndpointHandlers` calls and every order in which `range` visits
the routes, `RegisterEndpoints` calls `Handle` on each route's group with exactly the handlers
of the last `AddEndpointHandlers` call for that route, once each and in the order given, and
makes no call for a route that was never added. -/
theorem registerEndpoints_groups (adds : List (String × List EndpointHandler))
    {rangeOrder : List String} (hrange : rangeOrder.Perm (addAll adds).endpointHandlersMap.keys)
    (route : String) :
    ((addAll adds).registerEndpoints rangeOrder).filter (fun c => c.route = route) =
      ((lastHandlers adds route).getD []).map (handleCall route) := by
  rw [filter_registerEndpoints _ (hrange.nodup_iff.2 (AList.keys_nodup _)), ← lookup_addAll]
  split
  · rfl
  · rename_i h
    rw [AList.lookup_eq_none.2 fun hm => h (hrange.mem_iff.2 (AList.mem_keys.2 hm))]
    rfl

/-- A route added twice is served by its second list of handlers only. -/
theorem registerEndpoints_groups_readded :
    let adds : List (String × List EndpointHandler) :=
      [("/events", [⟨"/push", "POST", 1⟩]), ("/hub", [⟨"/ws", "GET", 2⟩]),
        ("/events", [⟨"/push", "POST", 3⟩, ⟨"/revert", "POST", 4⟩])]
    ["/hub", "/events"].Perm (addAll adds).endpointHandlersMap.keys ∧
      ((addAll adds).registerEndpoints ["/hub", "/events"]).filter
          (fun c => c.route = "/events") =
        [⟨"/events", "POST", "/push", 3⟩, ⟨"/events", "POST", "/revert", 4⟩] := by
  intro adds
  have hrange : ["/hub", "/events"].Perm (addAll adds).endpointHandlersMap.keys := by decide
  exact ⟨hrange, registerEndpoints_groups adds hrange "/events"⟩

end EventNotifier.Proxy
