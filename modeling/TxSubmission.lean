import TxSubmission.Cli.Run
import TxSubmission.Interface
import TxSubmission.Json.Reader
import TxSubmission.Json.Writer
import TxSubmission.Log.Console
import TxSubmission.Log.Line
import TxSubmission.Main
import TxSubmission.Reply
import TxSubmission.Request.Reading
import TxSubmission.Request.Wire
import TxSubmission.Sender.Scripted
import TxSubmission.Session
import TxSubmission.Session.Reading
import TxSubmission.Settings.Reading
import TxSubmission.Proofs.Sequencing
import TxSubmission.Proofs.Exchange
import TxSubmission.Proofs.WholeTexts
import TxSubmission.Proofs.Waiting
import TxSubmission.Proofs.QuantityText
import TxSubmission.Proofs.WireForm
import TxSubmission.Proofs.Submission
import TxSubmission.Proofs.Confirmation
import TxSubmission.Proofs.Carriage
import TxSubmission.Proofs.Isolation
import TxSubmission.Proofs.Utf8Text
import TxSubmission.Proofs.Relay
import TxSubmission.Proofs.RevertReason
import TxSubmission.Proofs.ErrorFidelity
import TxSubmission.Proofs.ReplySorts
import TxSubmission.Proofs.SingleExchange
import TxSubmission.Proofs.Conversation
import TxSubmission.Proofs.SendableRequests
import TxSubmission.Proofs.Connections
import TxSubmission.Proofs.Validity
import TxSubmission.Proofs.FreshLookups
import TxSubmission.Proofs.LocalRefusals
import TxSubmission.Proofs.CommandLine
import TxSubmission.Proofs.LogFloor
import TxSubmission.Proofs.ValidatedSettings
import TxSubmission.Proofs.LongCalldata
import TxSubmission.Proofs.ExitCodes
import TxSubmission.Proofs.RevertAcceptance
import TxSubmission.Proofs.CallOutcome
import TxSubmission.Proofs.WireRoundTrip
import TxSubmission.Proofs.Abridgement
import TxSubmission.Proofs.CanonicalQuantity
import TxSubmission.Proofs.SmallLetters
import TxSubmission.Proofs.BlockParameters
import TxSubmission.Proofs.SubmissionOutcome
import TxSubmission.Proofs.HealthCheck
import TxSubmission.Proofs.RevertLayout
import TxSubmission.Proofs.FeeModels
