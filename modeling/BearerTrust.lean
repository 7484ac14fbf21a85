import BearerTrust.Abort
import BearerTrust.Candidates
import BearerTrust.Claims.Basic
import BearerTrust.Claims.Requirement
import BearerTrust.Client.Authentication
import BearerTrust.Client.Cache
import BearerTrust.Client.Endpoint
import BearerTrust.Client.Error
import BearerTrust.Client.Grant
import BearerTrust.Client.Response
import BearerTrust.Client.Secret
import BearerTrust.Client.Service
import BearerTrust.Client.Settings
import BearerTrust.Context
import BearerTrust.Crypto.Der
import BearerTrust.Crypto.Pem
import BearerTrust.Crypto.Rsa
import BearerTrust.Crypto.Sha256
import BearerTrust.Discovery
import BearerTrust.Http.Client
import BearerTrust.Http.Message
import BearerTrust.Issuer
import BearerTrust.Json.Double
import BearerTrust.Json.Number
import BearerTrust.Json.Printer
import BearerTrust.Json.Reader
import BearerTrust.Json.Record
import BearerTrust.Json.Value
import BearerTrust.Json.Written
import BearerTrust.KeySource.Basic
import BearerTrust.KeySource.Concurrent
import BearerTrust.KeySource.Timeline
import BearerTrust.Keys.Jwk
import BearerTrust.Pipeline
import BearerTrust.Policy
import BearerTrust.Proofs.AnswerReading
import BearerTrust.Proofs.Assertion
import BearerTrust.Proofs.BackgroundRefresh
import BearerTrust.Proofs.BackgroundTask
import BearerTrust.Proofs.BodyLimit
import BearerTrust.Proofs.CacheTransparency
import BearerTrust.Proofs.CallDefects
import BearerTrust.Proofs.ClaimDecision
import BearerTrust.Proofs.ClaimMatching
import BearerTrust.Proofs.ClaimReading
import BearerTrust.Proofs.ClockRange
import BearerTrust.Proofs.Completeness
import BearerTrust.Proofs.CookieReading
import BearerTrust.Proofs.Delegation
import BearerTrust.Proofs.DenialSecrecy
import BearerTrust.Proofs.DeskHistory
import BearerTrust.Proofs.DeskMoves
import BearerTrust.Proofs.DeskOrder
import BearerTrust.Proofs.DeskProgress
import BearerTrust.Proofs.EndpointMemo
import BearerTrust.Proofs.EndpointSearch
import BearerTrust.Proofs.HeaderPieces
import BearerTrust.Proofs.Isolation
import BearerTrust.Proofs.JsonLeaves
import BearerTrust.Proofs.JsonReading
import BearerTrust.Proofs.KeyLookup
import BearerTrust.Proofs.KeyRotation
import BearerTrust.Proofs.NameOrder
import BearerTrust.Proofs.PipelineRun
import BearerTrust.Proofs.PolicyDecision
import BearerTrust.Proofs.PostedRequest
import BearerTrust.Proofs.RefreshLimit
import BearerTrust.Proofs.RegistryBuild
import BearerTrust.Proofs.RegistryDiscovery
import BearerTrust.Proofs.RequestEdits
import BearerTrust.Proofs.RequestRouting
import BearerTrust.Proofs.RequestScopes
import BearerTrust.Proofs.RequirementSpecs
import BearerTrust.Proofs.RequirementText
import BearerTrust.Proofs.ResourcePaths
import BearerTrust.Proofs.RetrievalCount
import BearerTrust.Proofs.RetrievalRecord
import BearerTrust.Proofs.RsaSigning
import BearerTrust.Proofs.SecretDisplay
import BearerTrust.Proofs.SharedRetrieval
import BearerTrust.Proofs.Soundness
import BearerTrust.Proofs.Steps
import BearerTrust.Proofs.SubjectToken
import BearerTrust.Proofs.TextPieces
import BearerTrust.Proofs.TimeWindow
import BearerTrust.Proofs.TimelineInstant
import BearerTrust.Proofs.TimelineRun
import BearerTrust.Proofs.TimelineSteps
import BearerTrust.Proofs.TokenAlike
import BearerTrust.Proofs.TokenExpiry
import BearerTrust.Proofs.TokenReading
import BearerTrust.Proofs.TokenReuse
import BearerTrust.Proofs.TokenRun
import BearerTrust.Proofs.TokenWriting
import BearerTrust.Proofs.ValidatorKinds
import BearerTrust.Proofs.ValidityWindow
import BearerTrust.Proofs.WireRequest
import BearerTrust.Registry
import BearerTrust.Registry.Index
import BearerTrust.Request
import BearerTrust.Retrieval
import BearerTrust.Scope
import BearerTrust.Settings.Issuer
import BearerTrust.Table
import BearerTrust.Text.Base64
import BearerTrust.Text.Blank
import BearerTrust.Text.Bytes
import BearerTrust.Text.CharRange
import BearerTrust.Text.Literal
import BearerTrust.Text.NormalForm
import BearerTrust.Text.NormalForm.Table
import BearerTrust.Text.Printable
import BearerTrust.Token.Algorithm
import BearerTrust.Token.Compact
import BearerTrust.Url.Basic
import BearerTrust.Url.Domain
import BearerTrust.Url.Domain.Direction
import BearerTrust.Url.Domain.Joiner
import BearerTrust.Url.Domain.Table
import BearerTrust.Url.Host
import BearerTrust.Url.Parser
import BearerTrust.Url.Percent
import BearerTrust.Url.Punycode
import BearerTrust.Validator
