import ContentBinding.Json.Printer
import ContentBinding.Main
import ContentBinding.Server.Answer
import ContentBinding.Proofs.Markup.Linked
import ContentBinding.Proofs.Markup.Growth
import ContentBinding.Proofs.Markup.Replacement
import ContentBinding.Proofs.Markup.Escaping
import ContentBinding.Proofs.Binding.Effects
import ContentBinding.Proofs.Binding.Targets
import ContentBinding.Proofs.Binding.Planning
import ContentBinding.Proofs.Binding.Breaking
import ContentBinding.Proofs.Binding.TextWrites
import ContentBinding.Proofs.Binding.Unchanged
import ContentBinding.Proofs.Binding.SecondPass
import ContentBinding.Proofs.Binding.Idempotence
import ContentBinding.Proofs.Files.Following
import ContentBinding.Proofs.Files.Resolution
import ContentBinding.Proofs.Site.Containment
import ContentBinding.Proofs.Json.Room
import ContentBinding.Proofs.Source.Obstruction
import ContentBinding.Proofs.Loading.Outcome
import ContentBinding.Proofs.Loading.Rendition
import ContentBinding.Proofs.Command.Rendering
import ContentBinding.Proofs.Server.Serving
import ContentBinding.Proofs.Number.Overflow
import ContentBinding.Proofs.Server.Identity
import ContentBinding.Proofs.Config.Declared
import ContentBinding.Proofs.LiveReload.Course
import ContentBinding.Proofs.LiveReload.Delivery
import ContentBinding.Proofs.Markup.Lexing
import ContentBinding.Proofs.Markup.Nesting
import ContentBinding.Proofs.Markup.Places
import ContentBinding.Proofs.Markup.Opening
import ContentBinding.Proofs.Markup.Admission
import ContentBinding.Proofs.Markup.Closing
import ContentBinding.Proofs.Markup.Parts
import ContentBinding.Proofs.Markup.Steps
import ContentBinding.Proofs.Markup.Texts
import ContentBinding.Proofs.Markup.Reading
import ContentBinding.Proofs.Markup.Rereading
import ContentBinding.Proofs.Markup.Stages
import ContentBinding.Proofs.Markup.Stability
import ContentBinding.Proofs.Binding.Spelling
import ContentBinding.Proofs.Binding.Frame
import ContentBinding.Proofs.Binding.Reordering
import ContentBinding.Proofs.Text.Utf8
import ContentBinding.Proofs.Markup.Beginning
import ContentBinding.Proofs.Markup.Begun
import ContentBinding.Proofs.Markup.Declaring
import ContentBinding.Proofs.Binding.Redecoding
import ContentBinding.Proofs.Number.Nearest
import ContentBinding.Proofs.Number.Grid
import ContentBinding.Proofs.Number.Fewest
import ContentBinding.Proofs.Binding.NumberText
import ContentBinding.Proofs.Config.Accepted
import ContentBinding.Proofs.Binding.Contact
import ContentBinding.Proofs.Binding.SourceSet
import ContentBinding.Proofs.Markup.Legible
import ContentBinding.Proofs.Markup.Invariants
import ContentBinding.Proofs.Markup.LegiblePages
import ContentBinding.Proofs.Markup.TagReading
import ContentBinding.Proofs.Binding.ImageAttributes
import ContentBinding.Proofs.Config.Overriding
import ContentBinding.Proofs.Config.Discovery
import ContentBinding.Proofs.LiveReload.Covering
import ContentBinding.Proofs.LiveReload.Survival
import ContentBinding.Proofs.LiveReload.Stopping
import ContentBinding.Proofs.Server.Documents
import ContentBinding.Proofs.Server.Reloading
import ContentBinding.Proofs.Source.Clients
import ContentBinding.Proofs.Source.Address
