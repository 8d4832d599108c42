import BlockVolume.Proofs.Section.Blocks
import BlockVolume.Proofs.Workspace.Sections

namespace BlockVolume

/-!
# Growth of a shared palette

A palette that several sections use may get further states at its end. Ids that
are stored already keep their states then, so a section whose storage is left
alone shows what it showed, whether or not it uses that palette.
-/

/-- A section over a larger palette shows what it showed. -/
theorem Section.Shows.extend
    {slab : Section}
    {keys : List String}
    (shows : slab.Shows keys)
    {grown : Palette}
    (extension : grown.Extends slab.palette) :
    { slab with palette := grown }.Shows keys where
  wellFormed := extension.wellFormed
  sound := shows.sound
  length_eq := shows.length_eq
  resolves := by
    obtain ⟨added, states_eq⟩ := extension.states_eq
    exact shows.resolves.grow states_eq

namespace Workspace

/-- One palette is extended, and the others and the records of the sections are the same. -/
structure Grows (workspace next : Workspace) (palette : PaletteId) : Prop where
  sections_eq : next.sections = workspace.sections
  size_eq : next.palettes.size = workspace.palettes.size
  paletteAt_eq : ∀ other, other ≠ palette → next.paletteAt other = workspace.paletteAt other
  extension : (next.paletteAt palette).Extends (workspace.paletteAt palette)

namespace Grows

variable {workspace next last : Workspace} {palette : PaletteId}

theorem refl (wellFormed : (workspace.paletteAt palette).WellFormed) :
    workspace.Grows workspace palette where
  sections_eq := rfl
  size_eq := rfl
  paletteAt_eq _ _ := rfl
  extension := .refl wellFormed

theorem trans
    (first : workspace.Grows next palette)
    (second : next.Grows last palette) :
    workspace.Grows last palette where
  sections_eq := second.sections_eq.trans first.sections_eq
  size_eq := second.size_eq.trans first.size_eq
  paletteAt_eq other different :=
    (second.paletteAt_eq other different).trans (first.paletteAt_eq other different)
  extension := second.extension.trans first.extension

/-- A palette is replaced by one that extends it. -/
theorem of_replaced
    (kept : palette.index < workspace.palettes.size)
    {grown : Palette}
    (extension : grown.Extends (workspace.paletteAt palette))
    (palettes_eq : next.palettes = workspace.palettes.setIfInBounds palette.index grown)
    (sections_eq : next.sections = workspace.sections) :
    workspace.Grows next palette where
  sections_eq := sections_eq
  size_eq := by rw [palettes_eq, Array.size_setIfInBounds]
  paletteAt_eq other different := by
    have differentIndex : palette.index ≠ other.index := mt (congrArg PaletteId.mk) different.symm
    rw [paletteAt, palettes_eq, getD_setIfInBounds_of_ne differentIndex, paletteAt]
  extension := by
    have grown_eq : next.paletteAt palette = grown := by
      rw [paletteAt, palettes_eq, getD_setIfInBounds_self kept]
    rw [grown_eq]
    exact extension

theorem recordAt_eq
    (grows : workspace.Grows next palette)
    (held : SectionId) :
    next.recordAt held = workspace.recordAt held := by
  rw [recordAt, grows.sections_eq, recordAt]

/-- A section whose storage is left alone shows what it showed. -/
theorem shows
    (grows : workspace.Grows next palette)
    {held : SectionId}
    {keys : List String}
    (sameStorage : (next.slabAt held).storage = (workspace.slabAt held).storage)
    (shows : (workspace.slabAt held).Shows keys) :
    (next.slabAt held).Shows keys := by
  have slab_eq : next.slabAt held =
      { workspace.slabAt held with
        palette := next.paletteAt (workspace.recordAt held).palette } := by
    refine congrArg₂ Section.mk ?_ sameStorage
    rw [grows.recordAt_eq]
  rw [slab_eq]
  by_cases shared : (workspace.recordAt held).palette = palette
  · rw [shared]
    exact shows.extend (shared ▸ grows.extension)
  · rw [grows.paletteAt_eq _ shared]
    exact shows

end Grows

end Workspace

end BlockVolume
