import StorySpec.Main
import StorySpec.Proofs.Command.Check
import StorySpec.Proofs.Command.Generate
import StorySpec.Proofs.Feature.Columns
import StorySpec.Proofs.Feature.Examples
import StorySpec.Proofs.Feature.Layout
import StorySpec.Proofs.Feature.ReadBack
import StorySpec.Proofs.Feature.Routes
import StorySpec.Proofs.Pattern.Reading
import StorySpec.Proofs.Pattern.Scan
import StorySpec.Proofs.Stub.File
import StorySpec.Proofs.Stub.Language
import StorySpec.Proofs.Stub.OfStory
import StorySpec.Proofs.Feature.Language
import StorySpec.Proofs.Pattern.Matcher
import StorySpec.Proofs.Pattern.Placeholders
import StorySpec.Proofs.Pattern.Alike
import StorySpec.Proofs.Pattern.Literal
import StorySpec.Proofs.Stub.LiteralValues
import StorySpec.Proofs.Language.Opener
import StorySpec.Proofs.Story.Header
import StorySpec.Proofs.Story.Faults
import StorySpec.Proofs.Feature.Numbering
import StorySpec.Proofs.Command.Unreadable
import StorySpec.Proofs.Table.ColumnType
import StorySpec.Proofs.Feature.Cells
import StorySpec.Proofs.Command.Frame
import StorySpec.Proofs.Stub.SignatureSet
import StorySpec.Proofs.Language.Longest
import StorySpec.Proofs.Story.BlockOpener
