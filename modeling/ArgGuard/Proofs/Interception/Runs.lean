import ArgGuard.Interception.Gateway
import ArgGuard.Proofs.Members

/-!
# Runs of a gateway

A gateway takes steps in any order: a resolver is entered, a layer is installed, a schema is replaced,
a field is called. What state it is in afterwards can be told from the history of its steps alone.
`Records` says how: the resolver of a field is the last one that was entered for it, behind the guard
of the layer that was installed first, and a layer has the registry of the last schema that its
configuration fitted. A step keeps this up with the history (`Records.step`), and so does a run
(`Records.run`).
-/

namespace ArgGuard

/-! ### Schemas of a layer -/

/-- The registries of the schemas that a configuration fits, in order. -/
def ValidationConfig.loads (config : ValidationConfig) (graphs : List TypeGraph) : List Registry :=
  graphs.filterMap fun graph => (config.load graph).toOption

namespace ValidationLayer

variable {layer : ValidationLayer} {graph : TypeGraph} {graphs : List TypeGraph} {error : LoadError}

/-- A layer after its schema was to be replaced by one graph after the other: the last one that fitted
is in force, and the generation has counted those that did. -/
def after (layer : ValidationLayer) (graphs : List TypeGraph) : ValidationLayer :=
  { layer with
    registry := { (layer.config.loads graphs).getLastD layer.registry with
      generation := layer.registry.generation + (layer.config.loads graphs).length } }

theorem after_nil (layer : ValidationLayer) : layer.after [] = layer := rfl

theorem loads_concat (config : ValidationConfig) :
    config.loads (graphs ++ [graph]) = config.loads graphs ++ (config.load graph).toOption.toList := by
  rw [ValidationConfig.loads, List.filterMap_append]
  cases h : config.load graph <;> simp [ValidationConfig.loads, h, Except.toOption]

theorem reload_after_ok {fresh : ValidationLayer} (h : (layer.after graphs).reload graph = .ok fresh) :
    fresh = layer.after (graphs ++ [graph]) := by
  unfold reload at h
  cases hload : (layer.after graphs).config.load graph with
  | error error => rw [hload] at h; cases h
  | ok registry =>
    rw [hload] at h
    cases h
    have hloads : layer.config.loads (graphs ++ [graph]) = layer.config.loads graphs ++ [registry] := by
      rw [loads_concat, show layer.config.load graph = .ok registry from hload]; rfl
    simp [after, hloads, Nat.add_assoc]

theorem reload_after_error (h : (layer.after graphs).reload graph = .error error) :
    layer.after (graphs ++ [graph]) = layer.after graphs := by
  unfold reload at h
  cases hload : (layer.after graphs).config.load graph with
  | ok registry => rw [hload] at h; cases h
  | error error =>
    have hloads : layer.config.loads (graphs ++ [graph]) = layer.config.loads graphs := by
      rw [loads_concat, show layer.config.load graph = .error error from hload]
      exact List.append_nil _
    rw [after, after, hloads]

end ValidationLayer

/-! ### The map of resolvers -/

namespace ResolverMap

variable {m : Type → Type} {map : ResolverMap m} {coordinate other : Coordinate} {resolver : Resolver m}
  {wrapper : ResolverWrapper m}

theorem insert_wrapper : (map.insert coordinate resolver).wrapper = map.wrapper := by
  unfold insert
  split <;> rfl

theorem get?_insert :
    (map.insert coordinate resolver).get? other =
      if coordinate = other then
        some (match map.wrapper with
          | some wrapper => wrapper coordinate resolver
          | none => resolver)
      else map.get? other := by
  unfold insert get?
  cases map.wrapper <;> exact Members.get?_set ..

theorem isWrapped_insert :
    (map.insert coordinate resolver).isWrapped other =
      if coordinate = other then map.wrapper.isSome else map.isWrapped other := by
  unfold insert isWrapped
  cases map.wrapper with
  | none =>
    by_cases hc : coordinate = other
    · simp [hc]
    · simp [hc, Ne.symm hc]
  | some wrapper =>
    by_cases hc : coordinate = other
    · subst hc
      by_cases hm : coordinate ∈ map.wrapped <;> simp [hm]
    · by_cases hm : coordinate ∈ map.wrapped <;> simp [hm, hc, Ne.symm hc]

theorem nodup_insert (hd : (Members.names map.resolvers).Nodup) :
    (Members.names (map.insert coordinate resolver).resolvers).Nodup := by
  unfold insert
  split <;> exact Members.nodup_names_set hd _ _

theorem wrapAll_of_wrapper (h : map.wrapper = some wrapper) (next : ResolverWrapper m) :
    map.wrapAll next = (map, 0) := by
  rw [wrapAll, h]

/-- With no `wrapper` before it, a wrapper comes to stand before all resolvers. -/
theorem wrapAll_of_bare (h : map.wrapper = none) (hbare : ∀ coordinate, map.isWrapped coordinate = false)
    (wrapper : ResolverWrapper m) :
    map.wrapAll wrapper =
      (⟨map.resolvers.map fun entry => (entry.1, wrapper entry.1 entry.2), Members.names map.resolvers,
        some wrapper⟩, map.resolvers.length) := by
  have hnone : map.wrapped = [] := by
    refine List.eq_nil_iff_forall_not_mem.2 fun coordinate hc => ?_
    have hwrapped := hbare coordinate
    rw [isWrapped, List.contains_iff_mem.2 hc] at hwrapped
    cases hwrapped
  have hall : ∀ names : List Coordinate, names.filter (fun _ => !false) = names :=
    fun names => List.filter_eq_self.2 fun _ _ => rfl
  rw [wrapAll, h]
  simp only [hbare, hnone, hall, List.nil_append, Bool.false_eq_true, if_false, Members.names,
    List.length_map]

end ResolverMap

namespace Gateway

variable {m : Type → Type}

/-! ### Steps -/

/-- What may happen to a gateway. -/
inductive Step (m : Type → Type)
  | insert (coordinate : Coordinate) (run : ResolverCall → m Resolution)
  | install (layer : LayerId)
  | reload (layer : LayerId) (graph : TypeGraph)
  | call (coordinate : Coordinate) (call : ResolverCall)

/-- What is seen of a step. -/
inductive Answer (m : Type → Type)
  | inserted
  | installed (count : Nat)
  | reloaded (generation : Nat)
  | refused (error : LoadError)
  | called (resolution : m Resolution)

def step [Pure m] (gateway : Gateway m) : Step m → Gateway m × Answer m
  | .insert coordinate run => (gateway.insert coordinate (.host run), .inserted)
  | .install layer => ((gateway.install layer).1, .installed (gateway.install layer).2)
  | .reload layer graph =>
    match gateway.reload layer graph with
    | .ok next => (next, .reloaded (next.inForce layer).generation)
    | .error error => (gateway, .refused error)
  | .call coordinate call => (gateway, .called (gateway.call coordinate call))

/-- Takes one step after the other. -/
def run [Pure m] (gateway : Gateway m) : List (Step m) → Gateway m × List (Answer m)
  | [] => (gateway, [])
  | step :: rest =>
    (((gateway.step step).1.run rest).1, (gateway.step step).2 :: ((gateway.step step).1.run rest).2)

/-! ### Histories -/

def firstInstalled (steps : List (Step m)) : Option LayerId :=
  steps.findSome? fun
    | .install layer => some layer
    | _ => none

/-- The resolver of the host that is entered last for a field. -/
def lastInserted (coordinate : Coordinate) (steps : List (Step m)) :
    Option (ResolverCall → m Resolution) :=
  (steps.filterMap fun
    | .insert other run => if other = coordinate then some run else none
    | _ => none).getLast?

/-- The schemas that are to replace that of a layer. -/
def reloads (layer : LayerId) (steps : List (Step m)) : List TypeGraph :=
  steps.filterMap fun
    | .reload other graph => if other = layer then some graph else none
    | _ => none

/-- The resolver of the host behind the guard of a layer, if one is installed. -/
def behind (installed : Option LayerId) (coordinate : Coordinate) (run : ResolverCall → m Resolution) :
    Resolver m :=
  match installed with
  | some layer => .guarded layer coordinate (.host run)
  | none => .host run

/-- A gateway in the state that the history of its steps tells. -/
structure Records (layers : List ValidationLayer) (steps : List (Step m)) (gateway : Gateway m) : Prop where
  layers : ∀ layer, gateway.layers[layer]? =
    layers[layer]?.map fun old : ValidationLayer => old.after (reloads layer steps)
  resolvers : ∀ coordinate, gateway.resolvers.get? coordinate =
    (lastInserted coordinate steps).map (behind (firstInstalled steps) coordinate)
  wrapped : ∀ coordinate, gateway.resolvers.isWrapped coordinate =
    ((firstInstalled steps).isSome && (lastInserted coordinate steps).isSome)
  wrapper : gateway.resolvers.wrapper = (firstInstalled steps).map fun layer => Resolver.guardOf layer
  distinct : (Members.names gateway.resolvers.resolvers).Nodup

section
variable {steps : List (Step m)} {coordinate other : Coordinate} {layer number : LayerId}
  {graph : TypeGraph}

theorem firstInstalled_concat (step : Step m) :
    firstInstalled (steps ++ [step]) = (firstInstalled steps).or (firstInstalled [step]) :=
  List.findSome?_append

theorem lastInserted_concat (step : Step m) :
    lastInserted coordinate (steps ++ [step]) =
      (lastInserted coordinate [step]).or (lastInserted coordinate steps) := by
  rw [lastInserted, List.filterMap_append, List.getLast?_append]
  rfl

theorem reloads_concat (step : Step m) :
    reloads layer (steps ++ [step]) = reloads layer steps ++ reloads layer [step] :=
  List.filterMap_append

theorem firstInstalled_reload :
    firstInstalled (steps ++ [.reload layer graph]) = firstInstalled steps := by
  rw [firstInstalled_concat]; exact Option.or_none

theorem lastInserted_reload :
    lastInserted coordinate (steps ++ [.reload layer graph]) = lastInserted coordinate steps := by
  rw [lastInserted_concat]; exact Option.none_or

theorem reloads_reload :
    reloads number (steps ++ [.reload layer graph]) =
      if layer = number then reloads number steps ++ [graph] else reloads number steps := by
  rw [reloads_concat]
  by_cases hn : layer = number <;> simp [reloads, hn]

end

/-! ### Reloading one of the layers -/

section
variable {gateway next : Gateway m} {layer : LayerId} {old : ValidationLayer} {graph : TypeGraph}
  {error : LoadError}

theorem reload_eq_ok (hlayer : gateway.layers[layer]? = some old)
    (h : gateway.reload layer graph = .ok next) :
    ∃ fresh, old.reload graph = .ok fresh ∧
      next = { gateway with layers := gateway.layers.set layer fresh } := by
  rw [reload, hlayer] at h
  cases hr : old.reload graph with
  | ok fresh => exact ⟨fresh, rfl, by simpa [hr, Except.map, eq_comm] using h⟩
  | error found => simp [hr, Except.map] at h

theorem reload_eq_error (hlayer : gateway.layers[layer]? = some old)
    (h : gateway.reload layer graph = .error error) : old.reload graph = .error error := by
  rw [reload, hlayer] at h
  cases hr : old.reload graph with
  | ok fresh => simp [hr, Except.map] at h
  | error found => simpa [hr, Except.map] using h

end

/-! ### Every step keeps the record -/

namespace Records

variable {layers : List ValidationLayer} {steps history : List (Step m)} {gateway : Gateway m}
  {layer : LayerId}

theorem nil (layers : List ValidationLayer) : Records layers [] ({ layers } : Gateway m) where
  layers layer := by simp [reloads, ValidationLayer.after_nil]
  resolvers coordinate := rfl
  wrapped coordinate := rfl
  wrapper := rfl
  distinct := List.nodup_nil

/-- `Records` depends on a history through `firstInstalled`, `lastInserted` and `reloads` alone. -/
theorem of_history (h : Records layers steps gateway)
    (hfirst : firstInstalled history = firstInstalled steps)
    (hlast : ∀ coordinate, lastInserted coordinate history = lastInserted coordinate steps)
    (hlayers : ∀ layer (old : ValidationLayer), layers[layer]? = some old →
      old.after (reloads layer history) = old.after (reloads layer steps)) :
    Records layers history gateway where
  layers layer := by
    rw [h.layers]
    cases hold : layers[layer]? with
    | none => rfl
    | some old => rw [Option.map_some, Option.map_some, hlayers layer old hold]
  resolvers coordinate := by rw [hfirst, hlast, h.resolvers]
  wrapped coordinate := by rw [hfirst, hlast, h.wrapped]
  wrapper := by rw [hfirst, h.wrapper]
  distinct := h.distinct

theorem insert (h : Records layers steps gateway) (coordinate : Coordinate)
    (run : ResolverCall → m Resolution) :
    Records layers (steps ++ [.insert coordinate run]) (gateway.insert coordinate (.host run)) := by
  have hfirst : firstInstalled (steps ++ [.insert coordinate run]) = firstInstalled steps := by
    rw [firstInstalled_concat]; exact Option.or_none
  have hlast : ∀ other, lastInserted other (steps ++ [.insert coordinate run]) =
      if coordinate = other then some run else lastInserted other steps := by
    intro other
    rw [lastInserted_concat]
    by_cases hc : coordinate = other <;> simp [lastInserted, hc]
  refine ⟨fun layer => ?_, fun other => ?_, fun other => ?_, ?_, ResolverMap.nodup_insert h.distinct⟩
  · have hreloads : reloads layer (steps ++ [.insert coordinate run]) = reloads layer steps := by
      rw [reloads_concat]; exact List.append_nil _
    rw [hreloads]; exact h.layers layer
  · rw [hfirst, hlast, Gateway.insert, ResolverMap.get?_insert, h.wrapper, h.resolvers]
    by_cases hc : coordinate = other
    · subst hc
      cases firstInstalled steps <;> simp [behind, Resolver.guardOf]
    · rw [if_neg hc, if_neg hc]
  · rw [hfirst, hlast, Gateway.insert, ResolverMap.isWrapped_insert, h.wrapper, h.wrapped]
    by_cases hc : coordinate = other <;> simp [hc]
  · rw [hfirst, ← h.wrapper]
    exact ResolverMap.insert_wrapper

/-- The first `install` puts `Resolver.guardOf` before every resolver. -/
theorem install_first (h : Records layers steps gateway) (hnone : firstInstalled steps = none)
    (layer : LayerId) : gateway.install layer = ({ gateway with
      resolvers := ⟨gateway.resolvers.resolvers.map fun entry =>
          (entry.1, Resolver.guardOf layer entry.1 entry.2),
        Members.names gateway.resolvers.resolvers, some (Resolver.guardOf layer)⟩ },
      gateway.resolvers.resolvers.length) := by
  have hwrapper : gateway.resolvers.wrapper = none := by rw [h.wrapper, hnone]; rfl
  have hbare : ∀ coordinate, gateway.resolvers.isWrapped coordinate = false := by
    intro coordinate
    rw [h.wrapped, hnone]; rfl
  rw [Gateway.install, Gateway.wrapAll, ResolverMap.wrapAll_of_bare hwrapper hbare]

theorem install_again (h : Records layers steps gateway) {first : LayerId}
    (hfirst : firstInstalled steps = some first) (layer : LayerId) :
    gateway.install layer = (gateway, 0) := by
  have hwrapper : gateway.resolvers.wrapper = some (Resolver.guardOf first) := by
    rw [h.wrapper, hfirst]; rfl
  rw [Gateway.install, Gateway.wrapAll, ResolverMap.wrapAll_of_wrapper hwrapper]

theorem install (h : Records layers steps gateway) (layer : LayerId) :
    Records layers (steps ++ [.install layer]) (gateway.install layer).1 := by
  have hfirst : firstInstalled (steps ++ [.install layer]) = (firstInstalled steps).or (some layer) := by
    rw [firstInstalled_concat]; rfl
  have hlast : ∀ coordinate, lastInserted coordinate (steps ++ [.install layer]) =
      lastInserted coordinate steps := by
    intro coordinate
    rw [lastInserted_concat]; exact Option.none_or
  have hreloads : ∀ number, reloads number (steps ++ [.install layer]) = reloads number steps := by
    intro number
    rw [reloads_concat]; exact List.append_nil _
  -- the first layer comes before the resolvers that are there, any other one finds a wrapper
  cases hinstalled : firstInstalled steps with
  | some first =>
    rw [h.install_again hinstalled]
    exact h.of_history (by rw [hfirst, hinstalled]; rfl) hlast fun _ _ _ => by rw [hreloads]
  | none =>
    rw [h.install_first hinstalled]
    rw [hinstalled, Option.none_or] at hfirst
    refine ⟨fun number => by rw [hreloads]; exact h.layers number, fun coordinate => ?_,
      fun coordinate => ?_, by rw [hfirst]; rfl, ?_⟩
    · rw [hfirst, hlast, ResolverMap.get?, Members.get?_mapEntries (Resolver.guardOf layer)]
      have hget := h.resolvers coordinate
      rw [hinstalled, ResolverMap.get?] at hget
      rw [hget]
      cases lastInserted coordinate steps <;> rfl
    · have hget := h.resolvers coordinate
      have hcontains : Members.contains gateway.resolvers.resolvers coordinate =
          (lastInserted coordinate steps).isSome := by
        rw [Members.contains, ← ResolverMap.get?, hget, Option.isSome_map]
      rw [hfirst, hlast, ← hcontains]
      show (Members.names gateway.resolvers.resolvers).contains coordinate = _
      rw [Bool.eq_iff_iff, List.contains_iff_mem, Members.mem_names_iff, Option.isSome_some, Bool.true_and]
    · rw [Members.names_mapEntries (Resolver.guardOf layer)]
      exact h.distinct

theorem reload_error {graph : TypeGraph} {error : LoadError} (h : Records layers steps gateway)
    (herror : gateway.reload layer graph = .error error) :
    Records layers (steps ++ [.reload layer graph]) gateway := by
  refine h.of_history firstInstalled_reload (fun _ => lastInserted_reload) fun number old hold => ?_
  rw [reloads_reload]
  split
  · rename_i hn
    subst hn
    have hlayer := h.layers layer
    rw [hold, Option.map_some] at hlayer
    rw [ValidationLayer.reload_after_error (reload_eq_error hlayer herror)]
  · rfl

theorem reload_ok {graph : TypeGraph} {next : Gateway m} (h : Records layers steps gateway)
    (hnext : gateway.reload layer graph = .ok next) :
    Records layers (steps ++ [.reload layer graph]) next := by
  have hlayer := h.layers layer
  cases hold : layers[layer]? with
  | none =>
    rw [hold, Option.map_none] at hlayer
    rw [Gateway.reload, hlayer] at hnext
    cases hnext
    -- there is no layer of this number, and no other one is told of the reload
    refine h.of_history firstInstalled_reload (fun _ => lastInserted_reload) fun number old hfound => ?_
    rw [reloads_reload, if_neg]
    rintro rfl
    rw [hold] at hfound; cases hfound
  | some old =>
    rw [hold, Option.map_some] at hlayer
    obtain ⟨fresh, hfresh, rfl⟩ := reload_eq_ok hlayer hnext
    obtain rfl := ValidationLayer.reload_after_ok hfresh
    refine ⟨fun number => ?_, fun coordinate => ?_, fun coordinate => ?_, ?_, h.distinct⟩
    · rw [reloads_reload]
      split
      · rename_i hn
        subst hn
        have hlt : layer < gateway.layers.length := (List.getElem?_eq_some_iff.1 hlayer).1
        rw [List.getElem?_set_self hlt, hold]
        rfl
      · rename_i hn
        rw [List.getElem?_set_ne hn]
        exact h.layers number
    · rw [firstInstalled_reload, lastInserted_reload]; exact h.resolvers coordinate
    · rw [firstInstalled_reload, lastInserted_reload]; exact h.wrapped coordinate
    · rw [firstInstalled_reload]; exact h.wrapper

theorem step [Pure m] (h : Records layers steps gateway) (step : Step m) :
    Records layers (steps ++ [step]) (gateway.step step).1 := by
  cases step with
  | insert coordinate run => exact h.insert coordinate run
  | install layer => exact h.install layer
  | reload layer graph =>
    unfold Gateway.step
    dsimp only
    split
    · rename_i next hnext
      exact h.reload_ok hnext
    · rename_i error herror
      exact h.reload_error herror
  | call coordinate call =>
    refine h.of_history ?_ (fun coordinate => ?_) fun number old _ => ?_
    · rw [firstInstalled_concat]; exact Option.or_none
    · rw [lastInserted_concat]; exact Option.none_or
    · rw [reloads_concat]; exact congrArg old.after (List.append_nil _)

theorem run [Pure m] (h : Records layers history gateway) (steps : List (Step m)) :
    Records layers (history ++ steps) (gateway.run steps).1 := by
  induction steps generalizing history gateway with
  | nil => rw [List.append_nil]; exact h
  | cons step rest ih =>
    have hstep := ih (h.step step)
    rwa [List.append_assoc] at hstep

end Records

end Gateway

end ArgGuard
