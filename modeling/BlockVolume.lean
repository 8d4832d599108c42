import BlockVolume.Config.Basic
import BlockVolume.Proofs.Block.Identity
import BlockVolume.Proofs.Section.Runs
import BlockVolume.Proofs.Storage.BoundedList
import BlockVolume.Proofs.Workspace.ChunkRuns
import BlockVolume.Proofs.Workspace.Merging
import BlockVolume.Proofs.Workspace.PaletteRuns
import BlockVolume.Proofs.Workspace.RemapRuns
import BlockVolume.Proofs.Storage.WholeWords
import BlockVolume.Proofs.Block.Tags
import BlockVolume.Proofs.Chunk.Emptiness
import BlockVolume.Proofs.Workspace.Emptiness
import BlockVolume.Proofs.Workspace.Growth
import BlockVolume.Proofs.Workspace.Sharing
import BlockVolume.Proofs.Config.DataVersion
import BlockVolume.Proofs.Workspace.Compaction
import BlockVolume.Proofs.Workspace.Copies
import BlockVolume.Proofs.Workspace.Substitution
import BlockVolume.Proofs.Workspace.Removals
import BlockVolume.Proofs.Palette.Union
import BlockVolume.Proofs.Workspace.Unions
import BlockVolume.Proofs.Storage.Halves
import BlockVolume.Proofs.Storage.PaddedLongs
import BlockVolume.Proofs.Storage.ContiguousLongs
import BlockVolume.Proofs.Block.Grammar
import BlockVolume.Proofs.Section.Fit
import BlockVolume.Proofs.Storage.Sizes
import BlockVolume.Proofs.Storage.BitStrings
import BlockVolume.Proofs.Workspace.Views
import BlockVolume.Proofs.Storage.Accesses
import BlockVolume.Proofs.Storage.WordAccesses
import BlockVolume.Proofs.Storage.ByteAccesses
import BlockVolume.Proofs.Workspace.Accesses
