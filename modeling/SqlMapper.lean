import SqlMapper.Calendar.Date
import SqlMapper.Calendar.Moment
import SqlMapper.Calendar.Pattern
import SqlMapper.Calendar.PatternText
import SqlMapper.Calendar.Reading
import SqlMapper.Connection.Fault
import SqlMapper.Connection.Options
import SqlMapper.Connection.Placeholder
import SqlMapper.Connection.Pool
import SqlMapper.Connection.Wire
import SqlMapper.Error
import SqlMapper.Expression.Basic
import SqlMapper.Expression.Build
import SqlMapper.Field.Basic
import SqlMapper.Field.Definition
import SqlMapper.Field.Wire
import SqlMapper.Index
import SqlMapper.Log
import SqlMapper.Model.Basic
import SqlMapper.Model.Running
import SqlMapper.Model.Samples
import SqlMapper.Number.Decimal
import SqlMapper.Number.FloatText
import SqlMapper.Number.Integer
import SqlMapper.Number.Shortest
import SqlMapper.Number.Size
import SqlMapper.Ordered
import SqlMapper.Proofs.Connection.Placeholder
import SqlMapper.Proofs.Field.Wire
import SqlMapper.Proofs.Rendering.Alike
import SqlMapper.Proofs.Rendering.Grouping
import SqlMapper.Proofs.Rendering.Invariant
import SqlMapper.Proofs.Rendering.Literals
import SqlMapper.Proofs.Rendering.Options
import SqlMapper.Proofs.Rendering.Outline
import SqlMapper.Proofs.Rendering.Parameters
import SqlMapper.Proofs.Rendering.Piece
import SqlMapper.Proofs.Rendering.Spelling
import SqlMapper.Proofs.Sample
import SqlMapper.Proofs.Statement.Alike
import SqlMapper.Proofs.Statement.Drawing
import SqlMapper.Proofs.Statement.Insert
import SqlMapper.Proofs.Statement.Parameters
import SqlMapper.Proofs.Statement.Query
import SqlMapper.Record.Basic
import SqlMapper.Record.Row
import SqlMapper.Record.Saving
import SqlMapper.Rendering.Context
import SqlMapper.Rendering.Expression
import SqlMapper.Rendering.Options
import SqlMapper.Rendering.Piece
import SqlMapper.Running.Action
import SqlMapper.Running.Connector
import SqlMapper.Running.Executor
import SqlMapper.Running.Fetching
import SqlMapper.Running.Replay
import SqlMapper.Running.Script
import SqlMapper.Running.Session
import SqlMapper.Source.Expression
import SqlMapper.Source.Fault
import SqlMapper.Source.Lexeme
import SqlMapper.Source.Literal
import SqlMapper.Source.Token
import SqlMapper.Source.TypeName
import SqlMapper.Statement
import SqlMapper.Statement.Change
import SqlMapper.Statement.Definition
import SqlMapper.Statement.Insert
import SqlMapper.Statement.Query
import SqlMapper.Struct.Chain
import SqlMapper.Struct.Column
import SqlMapper.Struct.Fault
import SqlMapper.Struct.Item
import SqlMapper.Struct.Model
import SqlMapper.Struct.Setting
import SqlMapper.Struct.Table
import SqlMapper.Suite.Books
import SqlMapper.Suite.Expectation
import SqlMapper.Suite.People
import SqlMapper.Suite.Run
import SqlMapper.Table.Basic
import SqlMapper.Table.Declaration
import SqlMapper.Text.CaseClass
import SqlMapper.Text.Hex
import SqlMapper.Text.Joined
import SqlMapper.Text.Lowercase
import SqlMapper.Text.Percent
import SqlMapper.Text.Printable
import SqlMapper.Text.Quoted
import SqlMapper.Text.Ranges
import SqlMapper.Text.Truncated
import SqlMapper.Text.Utf8
import SqlMapper.Text.WordCharacter
import SqlMapper.Url.Ipv6
import SqlMapper.Url.Reading
import SqlMapper.Uuid
import SqlMapper.Value.Basic
import SqlMapper.Value.Conversion
import SqlMapper.Value.Literal
import SqlMapper.Value.Shown
import SqlMapper.Proofs.Ordered
import SqlMapper.Proofs.Result
import SqlMapper.Proofs.Table.Compile
import SqlMapper.Proofs.Table.WellFormed
import SqlMapper.Proofs.Table.Indexes
import SqlMapper.Proofs.Text.Scan
import SqlMapper.Proofs.Value.Literal
import SqlMapper.Proofs.Rendering.Neutral
import SqlMapper.Proofs.Statement.Single
import SqlMapper.Proofs.Calendar.DayNumber
import SqlMapper.Proofs.Field.RoundTrip
import SqlMapper.Proofs.Field.Normal
import SqlMapper.Proofs.Number.Integer
import SqlMapper.Proofs.Number.Decimal
import SqlMapper.Proofs.Connection.Wire
import SqlMapper.Proofs.Record.Loading
import SqlMapper.Proofs.Record.Saving
import SqlMapper.Proofs.Field.Native
import SqlMapper.Proofs.Model.Replacing
import SqlMapper.Proofs.Struct.Column
import SqlMapper.Proofs.Struct.Model
import SqlMapper.Proofs.Statement.Batch
import SqlMapper.Proofs.Connection.Membership
import SqlMapper.Proofs.Record.Lifecycle
import SqlMapper.Proofs.Rendering.Scopes
import SqlMapper.Proofs.Table.Undeclared
import SqlMapper.Proofs.Families
import SqlMapper.Proofs.Connection.Names
import SqlMapper.Proofs.Record.NumberedKey
import SqlMapper.Proofs.Statement.SingleRow
import SqlMapper.Proofs.Statement.Selection
import SqlMapper.Proofs.Struct.Key
import SqlMapper.Proofs.Running.Connector
import SqlMapper.Proofs.Running.Turns
import SqlMapper.Proofs.Running.Binding
import SqlMapper.Proofs.Connection.Translation
import SqlMapper.Proofs.Rendering.Matching
import SqlMapper.Proofs.Value.Reading
import SqlMapper.Proofs.Connection.Slots
import SqlMapper.Proofs.Statement.Slots
import SqlMapper.Proofs.Calendar.Reading
import SqlMapper.Proofs.Field.Temporal
import SqlMapper.Proofs.Rendering.Inline
import SqlMapper.Proofs.Rendering.Places
import SqlMapper.Proofs.Statement.Qualified
import SqlMapper.Proofs.Statement.Builder
import SqlMapper.Proofs.Running.Walking
import SqlMapper.Proofs.Record.Labels
import SqlMapper.Proofs.Calendar.Extent
import SqlMapper.Proofs.Record.Readable
import SqlMapper.Proofs.Field.Setters
import SqlMapper.Proofs.Table.Nullability
import SqlMapper.Proofs.Rendering.Truths
import SqlMapper.Proofs.Record.KeySpelling
import SqlMapper.Proofs.Value.Integer
import SqlMapper.Proofs.Statement.Streams
import SqlMapper.Proofs.Text.Truncated
import SqlMapper.Proofs.Struct.Derived
