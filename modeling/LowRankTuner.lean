import LowRankTuner.Decimal.Binary
import LowRankTuner.Decimal.Shortest
import LowRankTuner.Decimal.Fixed
import LowRankTuner.Decimal.Layout
import LowRankTuner.Json.Value
import LowRankTuner.Json.Read
import LowRankTuner.Json.Write
import LowRankTuner.Json.Decode
import LowRankTuner.Text.Quote
import LowRankTuner.Text.Case
import LowRankTuner.Text.Blank
import LowRankTuner.Text.Lines
import LowRankTuner.Failure
import LowRankTuner.Disk.Path
import LowRankTuner.Disk.Basic
import LowRankTuner.Queue.Record
import LowRankTuner.Queue.Summary
import LowRankTuner.Queue.Load
import LowRankTuner.Template.Value
import LowRankTuner.Template.Lexer
import LowRankTuner.Template.Syntax
import LowRankTuner.Template.Parse
import LowRankTuner.Text.Search
import LowRankTuner.Decimal.Arith
import LowRankTuner.Template.Repr
import LowRankTuner.Template.Ops
import LowRankTuner.Template.Serialize
import LowRankTuner.Template.Format
import LowRankTuner.Template.Args
import LowRankTuner.Template.Tests
import LowRankTuner.Template.Filters
import LowRankTuner.Template.Lines
import LowRankTuner.Template.Scope
import LowRankTuner.Template.Render
import LowRankTuner.Chat.Template
import LowRankTuner.Text.WordChar
import LowRankTuner.Text.Alphanumeric
import LowRankTuner.Text.Pattern
import LowRankTuner.Ini.Document
import LowRankTuner.Yaml.Token
import LowRankTuner.Yaml.Event
import LowRankTuner.Yaml.Node
import LowRankTuner.Ron.Value
import LowRankTuner.Json5.Grammar
import LowRankTuner.Json5.Value
import LowRankTuner.Settings.Formats
import LowRankTuner.Tokenizer.Vocabulary
import LowRankTuner.Tokenizer.Chat
import LowRankTuner.Sampling.ChaCha
import LowRankTuner.Sampling.Weighted
import LowRankTuner.Dataset.Example
import LowRankTuner.Dataset.Weighted
import LowRankTuner.Training.Arguments
import LowRankTuner.Model.Config
import LowRankTuner.Lora.Config
import LowRankTuner.Cli.Report
import LowRankTuner.Tensor.Element
import LowRankTuner.Tensor.Shape
import LowRankTuner.Tensor.Basic
import LowRankTuner.Tensor.Graph
import LowRankTuner.Tensor.Gradient
import LowRankTuner.Lora.Adapter
import LowRankTuner.Model.Weights
import LowRankTuner.Model.Precision
import LowRankTuner.Model.CausalLM
import LowRankTuner.Model.Forward
import LowRankTuner.Training.Loss
import LowRankTuner.Safetensors.Header
import LowRankTuner.Safetensors.File
import LowRankTuner.Training.Export
import LowRankTuner.Training.Checkpoint
import LowRankTuner.Training.Optimizer
import LowRankTuner.Training.Trainer
import LowRankTuner.Decimal.Read
import LowRankTuner.Text.Similarity
import LowRankTuner.Toml.Datetime
import LowRankTuner.Toml.Token
import LowRankTuner.Toml.Document
import LowRankTuner.Toml.Tables
import LowRankTuner.Settings.Setting
import LowRankTuner.Settings.Decode
import LowRankTuner.Settings.Layers
import LowRankTuner.Settings.TrainConfig
import LowRankTuner.Cli.Grammar
import LowRankTuner.Cli.Parse
import LowRankTuner.Cli.TrainArgs
import LowRankTuner.Tokenizer.File
import LowRankTuner.Log.Event
import LowRankTuner.Log.Filter
import LowRankTuner.Model.Files
import LowRankTuner.Queue.Archive
import LowRankTuner.Cli.Session
import LowRankTuner.Cli.Program
import LowRankTuner.Time.Civil
import LowRankTuner.Main
import LowRankTuner.Proofs.Outcomes
import LowRankTuner.Proofs.Accumulation
import LowRankTuner.Proofs.GraphSteps
import LowRankTuner.Proofs.SinglePrecision
import LowRankTuner.Proofs.NextTokenLoss
import LowRankTuner.Proofs.PaddedBatches
import LowRankTuner.Proofs.JsonRoundTrip
import LowRankTuner.Proofs.SafetensorsRoundTrip
import LowRankTuner.Proofs.QueueLaw
import LowRankTuner.Proofs.DiskLaws
import LowRankTuner.Proofs.CheckpointRotation
import LowRankTuner.Proofs.RunFootprint
import LowRankTuner.Proofs.Schedule
import LowRankTuner.Proofs.StepArithmetic
import LowRankTuner.Proofs.BuildFaults
import LowRankTuner.Proofs.RunEvents
import LowRankTuner.Proofs.StepCadence
import LowRankTuner.Proofs.LogHistory
import LowRankTuner.Proofs.AdapterExport
import LowRankTuner.Proofs.DatasetLayout
import LowRankTuner.Proofs.GradientClipping
import LowRankTuner.Proofs.GraphShapes
import LowRankTuner.Proofs.ModelShapes
import LowRankTuner.Proofs.ForwardShapes
import LowRankTuner.Proofs.RotaryPositions
import LowRankTuner.Proofs.TurnTemplates
import LowRankTuner.Proofs.FallbackTemplates
import LowRankTuner.Proofs.ProjectionRows
import LowRankTuner.Proofs.NumberText
import LowRankTuner.Proofs.PrettyRoundTrip
import LowRankTuner.Proofs.QueueArchive
import LowRankTuner.Proofs.ModelDirectory
import LowRankTuner.Proofs.GradientSums
import LowRankTuner.Proofs.GroupedHeads
import LowRankTuner.Proofs.StateRoundTrip
