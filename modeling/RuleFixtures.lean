import RuleFixtures.Main
import RuleFixtures.Proofs.Labels.Identity
import RuleFixtures.Proofs.Fixtures.Replay
import RuleFixtures.Proofs.Fixtures.RoundTrip
import RuleFixtures.Proofs.Rules.Direct
import RuleFixtures.Proofs.Backend.Containment
import RuleFixtures.Proofs.Rules.Payload
import RuleFixtures.Proofs.Fixtures.AnswerOrder
import RuleFixtures.Proofs.Fixtures.GroupOrder
import RuleFixtures.Proofs.Rules.Interleaving
import RuleFixtures.Proofs.CommandLine.FurtherNames
import RuleFixtures.Proofs.Labels.NameOrder
import RuleFixtures.Proofs.CommandLine.Accounting
import RuleFixtures.Proofs.FaultReport
import RuleFixtures.Proofs.CommandLine.ErrorLine
import RuleFixtures.Proofs.Console.Shown
import RuleFixtures.Proofs.Console.Unwrapped
import RuleFixtures.Proofs.Console.Escape
import RuleFixtures.Proofs.Console.EscapedLine
import RuleFixtures.Proofs.Rules.ReportText
import RuleFixtures.Proofs.Fixtures.NearestStep
import RuleFixtures.Proofs.Fixtures.OutsideWindow
import RuleFixtures.Proofs.Backend.Envelope
import RuleFixtures.Proofs.Fixtures.LatestSamples
import RuleFixtures.Proofs.Fixtures.SpacedSamples
import RuleFixtures.Proofs.Fixtures.Lookback
import RuleFixtures.Proofs.Query.Decoding
import RuleFixtures.Proofs.CommandLine.Refusal
import RuleFixtures.Proofs.PromQL.Visits
import RuleFixtures.Proofs.Fixtures.Offers
import RuleFixtures.Proofs.PromQL.Additions
import RuleFixtures.Proofs.Backend.CurrentToken
import RuleFixtures.Proofs.Config.Flags
import RuleFixtures.Proofs.CommandLine.Spellings
import RuleFixtures.Proofs.Demo.Generation
import RuleFixtures.Proofs.Number.Whole
import RuleFixtures.Proofs.Time.WholeSeconds
import RuleFixtures.Proofs.Fixtures.WholeSamples
