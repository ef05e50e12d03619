import Mockup.Html.Preview

/-!
# When a document has a preview

A preview fails for one reason only: the style of some grid cannot be computed. The grids of a
document are those at any depth, and the answer of the rendering is tied to all of them at once, so
that the answers for the parts of a block put together are the answer for the block.
-/

namespace Mockup

/-- The configurations of a box: a grid has one. -/
def Box.gridConfigs : Box → List Text
  | .grid config => [config]
  | .card _ | .div _ => []

mutual

/-- The configurations of the grids in a block, in document order. -/
def Block.gridConfigs : Block → List Text
  | .item _ | .table _ => []
  | .box outer children => outer.gridConfigs ++ Block.gridConfigsOf children
  | .screen inner => inner.gridConfigs
  | .workflow _ screens => Screen.gridConfigsOf screens

def Block.gridConfigsOf : List Block → List Text
  | [] => []
  | block :: blocks => block.gridConfigs ++ Block.gridConfigsOf blocks

def Screen.gridConfigs : Screen → List Text
  | ⟨_, children⟩ => Block.gridConfigsOf children

def Screen.gridConfigsOf : List Screen → List Text
  | [] => []
  | screen :: screens => screen.gridConfigs ++ Screen.gridConfigsOf screens

end

/-- A configuration for which a style is computed. -/
def Grid.HasStyle (config : Text) : Prop :=
  ∃ style, Grid.style config = .ok style

namespace Preview

variable {α β : Type} {configs more : List Text}

/-- The answer of a rendering that meets grids with the given configurations. -/
def Answers (configs : List Text) : Except PreviewError α → Prop
  | .ok _ => ∀ config ∈ configs, Grid.HasStyle config
  | .error error =>
      ∃ config ∈ configs, ∃ cause, Grid.style config = .error cause ∧ error = .badGap cause

namespace Answers

theorem ok (value : α) : Answers [] (.ok value) := by
  intro config member
  cases member

/-- One rendering after the other. -/
theorem bind {first : Except PreviewError α} {next : α → Except PreviewError β}
    (answered : Answers configs first) (answers : ∀ value, Answers more (next value)) :
    Answers (configs ++ more) (first >>= next) := by
  cases first with
  | error error =>
      obtain ⟨config, member, failed⟩ := answered
      exact ⟨config, List.mem_append_left more member, failed⟩
  | ok value =>
      have later := answers value
      change Answers (configs ++ more) (next value)
      cases result : next value with
      | error error =>
          rw [result] at later
          obtain ⟨config, member, failed⟩ := later
          exact ⟨config, List.mem_append_right configs member, failed⟩
      | ok output =>
          rw [result] at later
          exact List.forall_mem_append.2 ⟨answered, later⟩

/-- What is made of a rendering does not change its answer. -/
theorem bind_ok {first : Except PreviewError α} (answered : Answers configs first)
    (make : α → β) : Answers configs (first >>= fun value => .ok (make value)) := by
  rw [← List.append_nil configs]
  exact answered.bind fun value => .ok (make value)

theorem style (box : Box) : Answers box.gridConfigs box.style := by
  cases box with
  | card title => exact .ok []
  | div className => exact .ok []
  | grid config =>
      rw [Box.style]
      cases styled : Grid.style config with
      | error cause => exact ⟨config, List.mem_singleton_self config, cause, styled, rfl⟩
      | ok style => exact List.forall_mem_singleton.2 ⟨style, styled⟩

mutual

theorem toHtml (block : Block) : Answers block.gridConfigs block.toHtml := by
  cases block with
  | item inner => exact .ok _
  | table inner => exact .ok _
  | box outer children =>
      rw [Block.toHtml, Block.gridConfigs]
      exact (style outer).bind fun _ => (listToHtml children).bind_ok _
  | screen inner => exact screen_toHtml none inner
  | workflow initial screens =>
      rw [Block.toHtml, Block.gridConfigs]
      exact (screen_listToHtml initial screens).bind_ok _

theorem listToHtml (blocks : List Block) :
    Answers (Block.gridConfigsOf blocks) (Block.listToHtml blocks) := by
  cases blocks with
  | nil => exact .ok []
  | cons block blocks =>
      rw [Block.listToHtml, Block.gridConfigsOf]
      exact (toHtml block).bind fun _ => (listToHtml blocks).bind_ok _

theorem screen_toHtml (initial : Option Text) (screen : Screen) :
    Answers screen.gridConfigs (screen.toHtml initial) := by
  cases screen with
  | mk id children =>
      rw [Screen.toHtml, Screen.gridConfigs]
      exact (listToHtml children).bind_ok _

theorem screen_listToHtml (initial : Text) (screens : List Screen) :
    Answers (Screen.gridConfigsOf screens) (Screen.listToHtml initial screens) := by
  cases screens with
  | nil => exact .ok []
  | cons screen screens =>
      rw [Screen.listToHtml, Screen.gridConfigsOf]
      exact (screen_toHtml (some initial) screen).bind fun _ =>
        (screen_listToHtml initial screens).bind_ok _

end

/-- A preview of blocks answers for all of their grids. -/
theorem ofBlocks (blocks : List Block) :
    Answers (Block.gridConfigsOf blocks) (Preview.ofBlocks blocks) := by
  have answered := listToHtml blocks
  rw [Preview.ofBlocks]
  cases result : Block.listToHtml blocks with
  | error error =>
      rw [result] at answered
      exact answered
  | ok nodes =>
      rw [result] at answered
      exact answered

end Answers

end Preview

end Mockup
