import ManifestLint.Collections.Entries
import ManifestLint.Console.Run
import ManifestLint.Decimal.Reading
import ManifestLint.Decimal.Shortest
import ManifestLint.Finding.Basic
import ManifestLint.Index.Address
import ManifestLint.Index.Layout
import ManifestLint.Index.Package
import ManifestLint.Json.Decode
import ManifestLint.Json.Display
import ManifestLint.Json.Encode
import ManifestLint.Main
import ManifestLint.Manifest.Reading
import ManifestLint.Registry.Opening
import ManifestLint.Session.Step
import ManifestLint.Settings.Loading
import ManifestLint.Specifier
import ManifestLint.Suggestion.Closest
import ManifestLint.Text.Blank
import ManifestLint.Text.Digit
import ManifestLint.Text.Lines
import ManifestLint.Text.Lower
import ManifestLint.Text.Quoted
import ManifestLint.Toml.Scan
import ManifestLint.Version.Requirement
import ManifestLint.Version.Strict
import ManifestLint.Proofs.Collections.Ending
import ManifestLint.Proofs.Sorting.Outcome
import ManifestLint.Proofs.Sorting.Stable
import ManifestLint.Proofs.Sorting.Merged
import ManifestLint.Proofs.Sorting.Ordered
import ManifestLint.Proofs.Text.Lines
import ManifestLint.Proofs.Text.LowerCase
import ManifestLint.Proofs.Suggestion.Edits
import ManifestLint.Proofs.Suggestion.LetterCase
import ManifestLint.Proofs.Version.Refusals
import ManifestLint.Proofs.Version.Precedence
import ManifestLint.Proofs.Version.Picking
import ManifestLint.Proofs.Toml.Coverage
import ManifestLint.Proofs.Toml.CompletePrefix
import ManifestLint.Proofs.Toml.Lines
import ManifestLint.Proofs.Toml.Stretches
import ManifestLint.Proofs.Toml.Quotes
import ManifestLint.Proofs.Toml.Faultless
import ManifestLint.Proofs.Manifest.Specifiers
import ManifestLint.Proofs.Manifest.Dependencies
import ManifestLint.Proofs.Manifest.Assignments
import ManifestLint.Proofs.Manifest.Sources
import ManifestLint.Proofs.Manifest.Membership
import ManifestLint.Proofs.Manifest.Printing
import ManifestLint.Proofs.Manifest.RoundTrip
import ManifestLint.Proofs.Json.Compact
import ManifestLint.Proofs.Json.Decoding
import ManifestLint.Proofs.Json.Following
import ManifestLint.Proofs.Json.Places
import ManifestLint.Proofs.Tracking.Operations
import ManifestLint.Proofs.Tracking.Coherence
import ManifestLint.Proofs.Tracking.Publication
import ManifestLint.Proofs.Tracking.Newest
import ManifestLint.Proofs.Tracking.Answered
import ManifestLint.Proofs.Tracking.Listening
import ManifestLint.Proofs.Fetching.Playing
import ManifestLint.Proofs.Fetching.Keeping
import ManifestLint.Proofs.Fetching.Conduct
import ManifestLint.Proofs.Fetching.Pool
import ManifestLint.Proofs.Fetching.Asking
import ManifestLint.Proofs.Fetching.Lockstep
import ManifestLint.Proofs.Fetching.Seeking
import ManifestLint.Proofs.Index.Trees
import ManifestLint.Proofs.Index.History
import ManifestLint.Proofs.Index.LineByLine
import ManifestLint.Proofs.Index.Paths
import ManifestLint.Proofs.Index.Spellings
import ManifestLint.Proofs.Registry.Readiness
import ManifestLint.Proofs.Registry.Showing
import ManifestLint.Proofs.Registry.Walking
import ManifestLint.Proofs.Registry.Validity
import ManifestLint.Proofs.Registry.UnreadConfiguration
import ManifestLint.Proofs.Registry.Passing
import ManifestLint.Proofs.Registry.VersionVerdict
import ManifestLint.Proofs.Registry.Browsing
import ManifestLint.Proofs.Registry.Hearsay
import ManifestLint.Proofs.Registry.Plain
import ManifestLint.Proofs.Registry.Determined
import ManifestLint.Proofs.Registry.Clearing
import ManifestLint.Proofs.Registry.Raising
import ManifestLint.Proofs.Registry.Offering
import ManifestLint.Proofs.Registry.Sending
import ManifestLint.Proofs.Registry.FirstCall
import ManifestLint.Proofs.Registry.Searching
import ManifestLint.Proofs.Registry.Declared
import ManifestLint.Proofs.Registry.Along
import ManifestLint.Proofs.Registry.Targets
import ManifestLint.Proofs.Registry.Indifference
import ManifestLint.Proofs.Registry.OneLevel
import ManifestLint.Proofs.Registry.OneClient
import ManifestLint.Proofs.Registry.AuthorNames
import ManifestLint.Proofs.Registry.BestVersion
import ManifestLint.Proofs.Registry.NewToken
import ManifestLint.Proofs.Registry.Supplying
import ManifestLint.Proofs.Registry.ConfigurationFile
import ManifestLint.Proofs.Registry.Storing
import ManifestLint.Proofs.Registry.Requesting
import ManifestLint.Proofs.Fetching.Results
import ManifestLint.Proofs.Tracking.Sessions
import ManifestLint.Proofs.Session.InTurn
import ManifestLint.Proofs.Session.Faults
import ManifestLint.Proofs.Checking.AnyOrder
import ManifestLint.Proofs.Checking.Resolving
import ManifestLint.Proofs.Checking.Suggesting
import ManifestLint.Proofs.Checking.Repeating
import ManifestLint.Proofs.Console.StrictCheck
import ManifestLint.Proofs.Console.Specifiers
import ManifestLint.Proofs.Version.Latest
import ManifestLint.Proofs.Registry.Cooldown
import ManifestLint.Proofs.Version.Ranges
import ManifestLint.Proofs.Settings.Layers
import ManifestLint.Proofs.Settings.WellTyped
import ManifestLint.Proofs.Version.Spelling
import ManifestLint.Proofs.Version.Writing
import ManifestLint.Proofs.Version.Coercion
import ManifestLint.Proofs.Completion.Candidates
import ManifestLint.Proofs.Finding.Placeholders
import ManifestLint.Proofs.Settings.Deciding
import ManifestLint.Proofs.Registry.LatestToken
import ManifestLint.Proofs.Registry.Reporting
import ManifestLint.Proofs.Console.FirstListed
import ManifestLint.Proofs.Toml.Marks
