import ScopeWalk.Candidate.Provider
import ScopeWalk.Cfg.Listing
import ScopeWalk.Cfg.Parser
import ScopeWalk.Cfg.Printer
import ScopeWalk.Completion.Collect
import ScopeWalk.Completion.Shortlist
import ScopeWalk.Feed.VisibleFrom
import ScopeWalk.Proofs.Cfg.RoundTrip
import ScopeWalk.Proofs.Feed.Stopping
import ScopeWalk.Proofs.Resolve.DisabledMembers
import ScopeWalk.Proofs.Resolve.Hiding
import ScopeWalk.Proofs.Resolve.History
import ScopeWalk.Resolve
import ScopeWalk.Scope.Lexical
import ScopeWalk.Proofs.Memo.Sharing
import ScopeWalk.Proofs.Feed.Record
import ScopeWalk.Proofs.Resolve.Progress
import ScopeWalk.Proofs.Resolve.Forcing
import ScopeWalk.Proofs.Resolve.Agreement
import ScopeWalk.Proofs.Crates.Breakdowns
import ScopeWalk.Proofs.Resolve.Recovery
import ScopeWalk.Proofs.Crates.Changes
import ScopeWalk.Proofs.Resolve.Within
import ScopeWalk.Proofs.Completion.Suggesting
import ScopeWalk.Proofs.Resolve.Lifetime
import ScopeWalk.Proofs.Crates.Designation
import ScopeWalk.Proofs.Resolve.ExternCrates
import ScopeWalk.Proofs.Resolve.Membership
import ScopeWalk.Proofs.Cfg.Readings
import ScopeWalk.Proofs.Resolve.Receivers
import ScopeWalk.Proofs.Resolve.LostDefaults
import ScopeWalk.Proofs.Completion.Ranking
import ScopeWalk.Proofs.Decl.Gate
import ScopeWalk.Proofs.Cfg.Cursor
import ScopeWalk.Proofs.Feed.Sifting
import ScopeWalk.Proofs.Cfg.Faults
import ScopeWalk.Proofs.Text.Lines
import ScopeWalk.Proofs.Cfg.Listings
import ScopeWalk.Proofs.Ty.Composition
import ScopeWalk.Proofs.Completion.Matching
import ScopeWalk.Proofs.Resolve.Innermost
import ScopeWalk.Proofs.Decl.Nesting
import ScopeWalk.Proofs.Resolve.Nested
import ScopeWalk.Proofs.Decl.ModuleTree
import ScopeWalk.Proofs.Ty.Stability
import ScopeWalk.Proofs.Ty.Unambiguous
