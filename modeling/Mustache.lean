import Mustache.Command
import Mustache.Command.Request
import Mustache.Command.Words
import Mustache.Config
import Mustache.Context
import Mustache.Delimiters
import Mustache.Document
import Mustache.Document.Yaml
import Mustache.Document.Yaml.Cursor
import Mustache.Document.Yaml.Node
import Mustache.Document.Yaml.Plain
import Mustache.Document.Yaml.Scalar
import Mustache.Document.Yaml.Token
import Mustache.Fault
import Mustache.FileTree
import Mustache.Libraries
import Mustache.Loader.Directory
import Mustache.Log
import Mustache.Main
import Mustache.Number.Context
import Mustache.Number.Double
import Mustache.Number.Exact
import Mustache.Number.Reading
import Mustache.Number.Shortest
import Mustache.Path
import Mustache.Proofs.Action
import Mustache.Proofs.Command.Agreement
import Mustache.Proofs.Command.AllOrNothing
import Mustache.Proofs.Command.Effective
import Mustache.Proofs.Command.Places
import Mustache.Proofs.Command.Reports
import Mustache.Proofs.Command.Stages
import Mustache.Proofs.Delimiters
import Mustache.Proofs.Delimiters.History
import Mustache.Proofs.FileTree
import Mustache.Proofs.Invariant
import Mustache.Proofs.Loader.Directory
import Mustache.Proofs.Log
import Mustache.Proofs.Mirror
import Mustache.Proofs.Outcome
import Mustache.Proofs.Path
import Mustache.Proofs.Render.Comment
import Mustache.Proofs.Render.Complement
import Mustache.Proofs.Render.Faults
import Mustache.Proofs.Render.Guise
import Mustache.Proofs.Render.Inert
import Mustache.Proofs.Render.Isolation
import Mustache.Proofs.Render.Joined
import Mustache.Proofs.Render.Locality
import Mustache.Proofs.Render.OneShot
import Mustache.Proofs.Render.Plain
import Mustache.Proofs.Render.Privacy
import Mustache.Proofs.Render.Resolution
import Mustache.Proofs.Render.Separated
import Mustache.Proofs.Render.Strict
import Mustache.Proofs.Render.Watched
import Mustache.Proofs.Render.Written
import Mustache.Proofs.Segment
import Mustache.Proofs.Settings.References
import Mustache.Proofs.Settings.Written
import Mustache.Proofs.Sort
import Mustache.Proofs.Template.Assembly
import Mustache.Proofs.Template.Comment
import Mustache.Proofs.Template.Cuts
import Mustache.Proofs.Template.Delivery
import Mustache.Proofs.Template.Ending
import Mustache.Proofs.Template.Flags
import Mustache.Proofs.Template.Foretold
import Mustache.Proofs.Template.Inclusion
import Mustache.Proofs.Template.Joined
import Mustache.Proofs.Template.Lines
import Mustache.Proofs.Template.Loading
import Mustache.Proofs.Template.Merged
import Mustache.Proofs.Template.Nesting
import Mustache.Proofs.Template.Options
import Mustache.Proofs.Template.Past
import Mustache.Proofs.Template.Printed
import Mustache.Proofs.Template.Raw
import Mustache.Proofs.Template.Reading
import Mustache.Proofs.Template.Recast
import Mustache.Proofs.Template.Refinement
import Mustache.Proofs.Template.RoundTrip
import Mustache.Proofs.Template.Sections
import Mustache.Proofs.Template.Shape
import Mustache.Proofs.Template.Surroundings
import Mustache.Proofs.Template.Table
import Mustache.Proofs.Template.Traffic
import Mustache.Proofs.Template.Walk
import Mustache.Proofs.Text.Entities
import Mustache.Proofs.Text.Escape
import Mustache.Proofs.Text.Infix
import Mustache.Proofs.Text.Styles
import Mustache.Proofs.Text.Words
import Mustache.Proofs.Token.Comment
import Mustache.Proofs.Token.Filled
import Mustache.Proofs.Token.Hunt
import Mustache.Proofs.Token.Place
import Mustache.Proofs.Token.Scan
import Mustache.Proofs.Token.Seam
import Mustache.Proofs.Token.Search
import Mustache.Proofs.Token.Stream
import Mustache.Proofs.Value.Adapters
import Mustache.Proofs.Value.Called
import Mustache.Proofs.Value.Compared
import Mustache.Proofs.Value.Deeds
import Mustache.Proofs.Value.Exposed
import Mustache.Proofs.Value.Extended
import Mustache.Proofs.Value.Guise
import Mustache.Proofs.Value.Likeness
import Mustache.Proofs.Value.Mirrored
import Mustache.Proofs.Value.Offered
import Mustache.Proofs.Value.Placed
import Mustache.Proofs.Value.Plain
import Mustache.Proofs.Value.Registry
import Mustache.Proofs.Value.Repeated
import Mustache.Proofs.Value.Traversed
import Mustache.Proofs.Value.Visited
import Mustache.Render
import Mustache.Segment
import Mustache.Settings
import Mustache.Settings.Environment
import Mustache.Settings.Project
import Mustache.Sort
import Mustache.Sort.Merge
import Mustache.Template
import Mustache.Text.Blank
import Mustache.Text.Casing
import Mustache.Text.Pieces
import Mustache.Text.Quoted
import Mustache.Text.Utf8
import Mustache.Token
import Mustache.Unicode.CaseMap
import Mustache.Unicode.Class
import Mustache.Unicode.Table
import Mustache.Value
import Mustache.Value.Adapters
import Mustache.Value.Build
import Mustache.Value.Cursor
import Mustache.Value.Iteration
import Mustache.Value.Lookup
import Mustache.Value.Member
import Mustache.Value.Order
import Mustache.Value.Registry
import Mustache.Value.Store
import Mustache.Value.Truth
import Mustache.Value.Written
