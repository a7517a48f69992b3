import Stencil.Proofs.Nesting
import Stencil.Proofs.Outcome
import Stencil.Proofs.Scoping
import Stencil.Proofs.Tree

/-! What the flags of an inclusion mean when its statement is rendered.

* `Registry.commandsOf?_include`: an inclusion whose children compile emits one command, and its flags
  alone give the third and the fourth argument.
* `Call.ofArguments`: the call that such arguments stand for.
* `Loader.Obeys`: a rendering ignores a missing template, and no other failure, as it is told, and runs
  a template that is there in a given scope.
* `Registry.include_flags_govern_rendering`: the call of an emitted statement obeys the flags of the
  node, wherever it is rendered. -/

namespace Stencil
set_option autoImplicit false

open Outcome

/-! ## The emitted arguments -/

namespace Registry

variable {registry : Registry} {node expr : Node} {target : String}

theorem find?_child {name : String} {child : Node} {segment : String}
    (named : node.child? name = some child) (compiled : registry.compile child = .ok segment) :
    Compiled.find? name (registry.compileChildren node.children) = .ok (some segment) := by
  have found : node.children.get? name = some child := named
  rw [compileChildren_eq_map, find?_compiled, found]
  dsimp only
  rw [compiled]
  rfl

theorem find?_absent {name : String} (absent : node.child? name = none) :
    Compiled.find? name (registry.compileChildren node.children) = .ok none := by
  have missed : node.children.get? name = none := absent
  rw [compileChildren_eq_map, find?_compiled, missed]

/-- The target and the data come from the children, the context and the flag for a missing template
from the attributes. -/
theorem commandsOf?_include (bound : registry.get? node.type = some .include)
    (named : node.child? "expr" = some expr) (compiled : registry.compile expr = .ok target)
    (data : ∀ child, node.child? "variables" = some child →
      ∃ segment, registry.compile child = .ok segment) :
    ∃ arg : Arg, registry.commandsOf? node = some (.ok [⟨Handler.includeFormat,
      [.segment target, arg, .literal (Handler.contextMarker node.attributes),
        .literal (Handler.missingFlag node.attributes)]⟩]) := by
  have required : Compiled.require node.type "expr" (registry.compileChildren node.children) =
      .ok target := by
    rw [Compiled.require, find?_child named compiled]
    rfl
  cases given : node.child? "variables" with
  | none =>
    refine ⟨.literal Handler.emptyMapping, ?_⟩
    rw [commandsOf?, bound, Option.map_some, Handler.commands, Handler.includeCommands, required,
      find?_absent given]
    rfl
  | some child =>
    obtain ⟨segment, compiled⟩ := data child given
    refine ⟨.segment segment, ?_⟩
    rw [commandsOf?, bound, Option.map_some, Handler.commands, Handler.includeCommands, required,
      find?_child given compiled]
    rfl

end Registry

/-! ## The calls they stand for -/

/-- The call that a generated statement makes, given the texts of its third and fourth argument. -/
def Call.ofArguments (reference : String) (data ambient : Scope) (marker missing : String) : Call where
  reference
  data
  context := .ofMarker marker ambient
  ignoreMissing := missing == "1"

theorem Scope.effective_marker (attributes : OrderedMap Attribute) (data ambient : Scope) :
    Scope.effective data (.ofMarker (Handler.contextMarker attributes) ambient) =
      if Handler.flagSet "only" attributes then data else data.overlay ambient := by
  rw [Handler.contextMarker]
  split
  · rw [Context.ofMarker, if_pos rfl]
    rfl
  · have other : Handler.inheritedMarker ≠ Handler.isolatedMarker := by decide
    rw [Context.ofMarker, if_neg other]
    rfl

theorem Handler.missingFlag_beq (attributes : OrderedMap Attribute) :
    (Handler.missingFlag attributes == "1") = Handler.flagSet "ignore_missing" attributes := by
  rw [Handler.missingFlag]
  cases Handler.flagSet "ignore_missing" attributes <;> decide

/-! ## Rendering them -/

/-- How a call is rendered if a missing template is ignored or not, and if the template that is called
sees the given scope. -/
structure Loader.Obeys (loader : Loader) (ignoreMissing : Bool) (scope : Scope) (call : Call)
    (cache : Cache) : Prop where
  /-- Where the reference leads nowhere, this is an error or nothing; the cache is the same. -/
  missing : ∀ e after, loader.resolve call.reference cache = (.error e, after) →
    ∀ result last, loader.Ends call cache result last ↔
      result = (if ignoreMissing then .ok "" else .error e) ∧ last = after
  /-- Otherwise the outcome is that of the template in the scope, well or with an error. -/
  present : ∀ template after, loader.resolve call.reference cache = (.ok template, after) →
    ∀ result last, loader.Ends call cache result last ↔
      loader.PartsEnd scope template after result last
  /-- The error of an inclusion in the template, at whatever depth, is the error of the call. -/
  nested : ∀ template after, loader.resolve call.reference cache = (.ok template, after) →
    ∀ inner moment e last, loader.Reaches scope template after inner moment →
      loader.Ends inner moment (.error e) last → loader.Ends call cache (.error e) last

theorem Loader.obeys (loader : Loader) (call : Call) (cache : Cache) :
    loader.Obeys call.ignoreMissing (Scope.effective call.data call.context) call cache where
  missing _ _ unresolved _ _ := ends_iff_of_unresolved unresolved
  present _ _ resolved _ _ := ends_iff_of_resolved resolved
  nested _ _ resolved _ _ _ _ reached failed :=
    (ends_iff_of_resolved resolved).mpr (reached.surfaces failed)

namespace Registry

/-- The statement of an inclusion, rendered with whatever reference, data and variables around it, does
what the flags of the node say: a missing template is ignored if and only if `ignore_missing` is set,
and a template that is there sees the data alone if and only if `only` is set. Its errors, and those of
what it includes, are never ignored. -/
theorem include_flags_govern_rendering (registry : Registry) (node expr : Node) (target : String)
    (bound : registry.get? node.type = some .include) (named : node.child? "expr" = some expr)
    (compiled : registry.compile expr = .ok target)
    (data : ∀ child, node.child? "variables" = some child →
      ∃ segment, registry.compile child = .ok segment) :
    ∃ command marker missing, registry.commandsOf? node = some (.ok [command]) ∧
      command.args[2]? = some (.literal marker) ∧ command.args[3]? = some (.literal missing) ∧
      ∀ (loader : Loader) (cache : Cache) (reference : String) (data ambient : Scope),
        let scope := if node.flag "only" then data else data.overlay ambient
        loader.Obeys (node.flag "ignore_missing") scope
            (.ofArguments reference data ambient marker missing) cache ∧
          (data.names.Nodup → ∀ name, scope.get? name =
            if node.flag "only" then data.get? name
            else (data.get? name).or (ambient.get? name)) := by
  obtain ⟨arg, emitted⟩ := commandsOf?_include bound named compiled data
  refine ⟨_, _, _, emitted, rfl, rfl, fun loader cache reference data ambient => ⟨?_, ?_⟩⟩
  · have obeys := loader.obeys (.ofArguments reference data ambient
      (Handler.contextMarker node.attributes) (Handler.missingFlag node.attributes)) cache
    rw [Call.ofArguments, Scope.effective_marker, Handler.missingFlag_beq] at obeys
    rw [Call.ofArguments, Handler.missingFlag_beq]
    exact obeys
  · intro distinct name
    split
    · rfl
    · exact Scope.get?_overlay distinct ambient name

/-- Both flags are set, by a text and by a number. A missing page is ignored; a page that is there, and
that itself includes a missing one, is not. -/
theorem include_flags_of_page_with_missing_part :
    let name := (Node.leaf "constant").withAttr "value" (.text "page")
    let node := (((Node.leaf "include").withChild "expr" name).withAttr "only" (.text "no")).withAttr
      "ignore_missing" (.int 1)
    let page : RenderTemplate := [.show "a", .include { reference := .constant "part" }]
    let loader := Engine.load { templates := [("page", page)] }
    standard.get? node.type = some .include ∧ node.child? "expr" = some name ∧
      standard.compile name = .ok "\"page\"" ∧ node.child? "variables" = none ∧
      ∃ command marker missing, standard.commandsOf? node = some (.ok [command]) ∧
        command.args[2]? = some (.literal marker) ∧ command.args[3]? = some (.literal missing) ∧
        ∀ data ambient : Scope,
          loader.Ends (.ofArguments "gone" data ambient marker missing) {} (.ok "") ⟨[], 1⟩ ∧
          loader.Ends (.ofArguments "page" data ambient marker missing) {}
            (.error (.missingTemplate "part")) ⟨[("page", page)], 2⟩ := by
  intro name node page loader
  have bound : standard.get? node.type = some .include := rfl
  have compiled : standard.compile name = .ok "\"page\"" := rfl
  have none : node.child? "variables" = none := rfl
  obtain ⟨command, marker, missing, emitted, third, fourth, governed⟩ :=
    include_flags_govern_rendering standard node name "\"page\"" bound rfl compiled
      (fun child given => by rw [none] at given; cases given)
  refine ⟨bound, rfl, compiled, none, command, marker, missing, emitted, third, fourth, ?_⟩
  intro data ambient
  have gone := (governed loader {} "gone" data ambient).1
  have there := (governed loader {} "page" data ambient).1
  have reached : loader.Reaches data page ⟨[("page", page)], 1⟩ ⟨"part", [], .inherit data, false⟩
      ⟨[("page", page)], 1⟩ :=
    .later ⟨0, rfl⟩ (.here data { reference := .constant "part" } [] _)
  exact ⟨(gone.missing _ _ rfl _ _).mpr ⟨rfl, rfl⟩,
    there.nested page _ rfl _ _ _ _ reached ⟨1, rfl⟩⟩

end Registry

end Stencil
