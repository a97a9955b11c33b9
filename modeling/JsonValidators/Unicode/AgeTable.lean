/-!
The version of the standard that first assigned each code point, as runs in code
point order. A run is a number of code points and the version, which is `v0` for
those that are not assigned.
-/

namespace JsonValidators.Unicode

/-- The runs, separated by blanks. -/
def ageTable : List String := [
  "502v1.1 4v3.0 30v1.1 8v3.0 1v3.2 1v4.0 18v3.0 3v4.0 11v4.1 14v5.0 89v1.1 5v3.0 2v4.0 47v1.1",
  "1v3.0 10v1.1 5v3.0 17v4.0 70v1.1 9v3.0 1v3.2 8v4.0 5v4.1 3v4.0 2v1.1 1v3.0 13v3.2 4v5.1 2v1.1",
  "2v5.1 2v0 1v1.1 3v5.0 1v1.1 1v7.0 4v0 7v1.1 1v0 1v1.1 1v0 20v1.1 1v0 44v1.1 1v5.1 7v1.1 1v3.0",
  "2v3.2 1v1.1 1v3.0 1v1.1 1v3.0 1v1.1 1v3.0 1v1.1 1v3.0 18v1.1 2v3.1 1v3.2 5v4.0 4v4.1 1v3.0",
  "12v1.1 1v3.0 66v1.1 1v3.0 12v1.1 1v3.0 41v1.1 1v5.1 2v3.0 2v3.2 4v3.0 53v1.1 2v3.2 2v1.1 2v3.2",
  "2v1.1 2v3.2 1v5.0 28v1.1 2v3.0 8v1.1 2v4.1 2v1.1 6v5.0 16v3.2 4v5.0 16v5.1 2v5.2 2v6.0 8v7.0",
  "1v0 38v1.1 2v0 7v1.1 1v11.0 39v1.1 1v11.0 1v1.1 1v3.0 2v0 2v7.0 1v6.1 1v0 17v2.0 1v4.1 13v2.0",
  "10v1.1 1v5.0 9v1.1 1v2.0 3v4.1 8v0 27v1.1 4v0 1v11.0 5v1.1 11v0 4v4.0 1v6.1 1v7.0 5v5.1 1v4.1",
  "1v1.1 9v4.0 5v5.1 1v1.1 1v6.3 1v14.0 1v4.1 1v1.1 1v6.0 26v1.1 5v5.1 19v1.1 3v3.0 3v4.0 6v4.1",
  "1v6.0 14v1.1 2v3.2 72v1.1 2v3.0 5v1.1 1v3.0 15v1.1 1v3.0 30v1.1 2v4.0 10v1.1 5v3.0 1v4.0",
  "14v3.0 1v0 30v3.0 3v4.0 27v3.0 2v0 3v4.0 30v4.1 18v5.1 49v3.0 1v3.2 14v0 59v5.0 2v0 3v11.0",
  "46v5.2 2v0 15v5.2 1v0 28v6.0 2v0 1v6.0 1v0 11v10.0 5v0 31v14.0 1v0 2v14.0 5v0 1v16.0 8v14.0",
  "1v6.1 1v7.0 11v6.1 6v7.0 2v8.0 1v14.0 8v9.0 10v13.0 11v14.0 1v11.0 15v9.0 1v8.0 27v6.1 1v7.0",
  "1v5.2 3v1.1 1v4.0 53v1.1 2v6.0 18v1.1 1v5.2 1v6.0 5v1.1 1v5.2 2v6.0 25v1.1 2v5.1 5v6.0 1v7.0",
  "2v5.2 2v5.0 1v4.1 2v5.0 1v7.0 3v1.1 1v0 8v1.1 2v0 2v1.1 2v0 22v1.1 1v0 7v1.1 1v0 1v1.1 3v0",
  "4v1.1 2v0 1v1.1 1v4.0 7v1.1 2v0 2v1.1 2v0 3v1.1 1v4.1 8v0 1v1.1 4v0 2v1.1 1v0 5v1.1 2v0 21v1.1",
  "1v5.2 2v10.0 1v11.0 2v0 1v4.0 1v1.1 1v4.0 1v0 6v1.1 4v0 2v1.1 2v0 22v1.1 1v0 7v1.1 1v0 2v1.1",
  "1v0 2v1.1 1v0 2v1.1 2v0 1v1.1 1v0 5v1.1 4v0 2v1.1 2v0 3v1.1 3v0 1v5.1 7v0 4v1.1 1v0 1v1.1 7v0",
  "15v1.1 1v5.1 1v11.0 10v0 3v1.1 1v0 7v1.1 1v4.0 1v1.1 1v0 3v1.1 1v0 22v1.1 1v0 7v1.1 1v0 2v1.1",
  "1v0 5v1.1 2v0 10v1.1 1v0 3v1.1 1v0 3v1.1 2v0 1v1.1 15v0 1v1.1 3v4.0 2v0 10v1.1 1v6.1 1v4.0 7v0",
  "1v8.0 6v10.0 1v0 3v1.1 1v0 8v1.1 2v0 2v1.1 2v0 22v1.1 1v0 7v1.1 1v0 2v1.1 1v0 1v4.0 4v1.1 2v0",
  "8v1.1 1v5.1 2v0 2v1.1 2v0 3v1.1 7v0 1v13.0 2v1.1 4v0 2v1.1 1v0 3v1.1 2v5.1 2v0 11v1.1 1v4.0",
  "6v6.0 10v0 2v1.1 1v0 6v1.1 3v0 3v1.1 1v0 4v1.1 3v0 2v1.1 1v0 1v1.1 1v0 2v1.1 3v0 2v1.1 3v0",
  "3v1.1 3v0 8v1.1 1v4.1 3v1.1 4v0 5v1.1 3v0 3v1.1 1v0 4v1.1 2v0 1v5.1 6v0 1v1.1 14v0 1v4.1",
  "12v1.1 8v4.0 5v0 1v7.0 3v1.1 1v11.0 8v1.1 1v0 3v1.1 1v0 23v1.1 1v0 10v1.1 1v7.0 5v1.1 2v0",
  "1v14.0 1v5.1 7v1.1 1v0 3v1.1 1v0 4v1.1 7v0 2v1.1 1v0 2v5.1 1v8.0 2v0 1v14.0 2v0 2v1.1 2v5.1",
  "2v0 10v1.1 7v0 1v12.0 8v5.1 1v9.0 1v7.0 2v1.1 1v11.0 8v1.1 1v0 3v1.1 1v0 23v1.1 1v0 10v1.1 1v0",
  "5v1.1 2v0 2v4.0 7v1.1 1v0 3v1.1 1v0 4v1.1 7v0 2v1.1 6v0 1v14.0 1v1.1 1v0 2v1.1 2v5.0 2v0",
  "10v1.1 1v0 2v5.0 1v15.0 12v0 1v10.0 1v7.0 2v1.1 1v13.0 8v1.1 1v0 3v1.1 1v0 23v1.1 1v6.0 16v1.1",
  "1v6.0 2v10.0 1v5.1 6v1.1 1v5.1 1v0 3v1.1 1v0 4v1.1 1v6.0 1v9.0 4v0 3v9.0 1v1.1 7v9.0 1v8.0",
  "2v1.1 2v5.1 2v0 10v1.1 6v5.1 3v9.0 7v5.1 1v0 1v13.0 2v3.0 1v0 18v3.0 3v0 24v3.0 1v0 9v3.0 1v0",
  "1v3.0 2v0 7v3.0 3v0 1v3.0 4v0 6v3.0 1v0 1v3.0 1v0 8v3.0 6v0 10v7.0 2v0 3v3.0 12v0 58v1.1 4v0",
  "29v1.1 37v0 2v1.1 1v0 1v1.1 1v0 1v12.0 2v1.1 1v12.0 1v1.1 1v0 1v12.0 1v1.1 6v12.0 4v1.1 1v12.0",
  "7v1.1 1v12.0 3v1.1 1v0 1v1.1 1v0 1v1.1 2v12.0 2v1.1 1v12.0 13v1.1 1v12.0 3v1.1 2v0 5v1.1 1v0",
  "1v1.1 1v0 6v1.1 1v15.0 1v0 10v1.1 2v0 2v1.1 2v6.1 32v0 72v2.0 1v0 33v2.0 1v3.0 2v5.1 4v0",
  "27v2.0 4v6.0 6v2.0 1v3.0 1v2.0 1v0 21v2.0 3v3.0 7v2.0 1v3.0 1v2.0 3v3.0 1v0 15v3.0 1v0 1v5.1",
  "1v3.0 2v4.1 3v5.1 4v5.2 2v6.0 37v0 34v3.0 1v5.1 5v3.0 1v5.1 2v3.0 1v5.1 7v3.0 3v5.1 4v3.0",
  "6v5.1 26v3.0 64v5.1 4v5.2 2v5.1 38v1.1 1v0 1v6.1 5v0 1v6.1 2v0 39v1.1 2v3.2 2v4.1 1v1.1 1v4.1",
  "3v6.1 90v1.1 5v5.2 68v1.1 5v5.2 82v1.1 6v5.2 7v3.0 1v4.1 63v3.0 1v4.1 1v3.0 1v0 4v3.0 2v0",
  "7v3.0 1v0 1v3.0 1v0 4v3.0 2v0 39v3.0 1v4.1 1v3.0 1v0 4v3.0 2v0 31v3.0 1v4.1 1v3.0 1v0 4v3.0",
  "2v0 7v3.0 1v0 1v3.0 1v0 4v3.0 2v0 7v3.0 1v4.1 7v3.0 1v0 23v3.0 1v4.1 31v3.0 1v4.1 1v3.0 1v0",
  "4v3.0 2v0 7v3.0 1v4.1 39v3.0 1v4.1 19v3.0 2v0 2v6.0 2v4.1 28v3.0 3v0 26v4.1 6v0 85v3.0 1v8.0",
  "2v0 6v8.0 2v0 1v5.2 630v3.0 9v5.2 29v3.0 3v0 81v3.0 8v7.0 7v0 13v3.2 1v14.0 7v3.2 1v14.0 9v0",
  "1v14.0 23v3.2 9v0 20v3.2 12v0 13v3.2 1v0 3v3.2 1v0 2v3.2 12v0 93v3.0 1v4.0 2v0 10v3.0 6v0",
  "10v4.0 6v0 15v3.0 1v14.0 10v3.0 6v0 88v3.0 1v11.0 7v0 42v3.0 1v5.1 5v0 70v5.2 10v0 29v4.0",
  "2v7.0 1v0 12v4.0 4v0 12v4.0 4v0 1v4.0 3v0 42v4.0 2v0 5v4.0 11v0 42v4.1 2v5.2 4v0 26v4.1 6v0",
  "10v4.1 1v5.2 3v0 2v4.1 32v4.0 28v4.1 2v0 2v4.1 63v5.2 1v0 29v5.2 2v0 11v5.2 6v0 10v5.2 6v0",
  "14v5.2 2v0 15v7.0 2v13.0 14v14.0 49v0 76v5.0 1v14.0 1v0 2v16.0 45v5.0 2v14.0 1v16.0 43v5.1",
  "3v6.1 12v5.1 6v6.1 52v6.0 8v0 4v6.0 56v5.1 3v0 15v5.1 3v0 51v5.1 9v9.0 2v16.0 5v0 43v11.0 2v0",
  "3v11.0 8v6.1 8v0 35v5.2 4v6.1 1v10.0 2v7.0 1v12.0 5v0 108v4.0 88v4.1 7v5.0 28v5.1 15v7.0",
  "4v10.0 1v14.0 1v9.0 1v6.0 1v5.2 2v5.0 155v1.1 1v2.0 4v5.1 90v1.1 6v5.1 22v1.1 2v0 6v1.1 2v0",
  "38v1.1 2v0 6v1.1 2v0 8v1.1 1v0 1v1.1 1v0 1v1.1 1v0 1v1.1 1v0 31v1.1 2v0 53v1.1 1v0 15v1.1 1v0",
  "14v1.1 2v0 6v1.1 1v0 19v1.1 2v0 3v1.1 1v0 9v1.1 1v0 47v1.1 1v3.0 23v1.1 1v3.2 6v3.0 5v3.2",
  "2v4.0 2v4.1 1v3.2 7v4.1 5v3.2 1v5.1 1v0 4v6.3 7v1.1 1v3.2 2v0 27v1.1 1v0 5v4.1 8v6.0 3v0",
  "11v1.1 1v2.0 1v2.1 3v3.0 2v3.2 4v4.1 3v5.2 1v6.0 1v6.2 3v7.0 1v8.0 1v10.0 1v14.0 15v0 18v1.1",
  "2v3.0 7v3.2 1v4.1 4v5.0 1v5.1 15v0 57v1.1 2v3.0 1v4.0 1v4.1 15v3.2 1v4.1 2v5.0 1v5.1 3v5.2",
  "48v1.1 1v3.0 1v5.0 4v5.1 1v5.2 2v8.0 4v0 91v1.1 9v3.0 12v3.2 242v1.1 14v3.2 1v1.1 1v3.0",
  "121v1.1 1v3.0 1v3.2 30v3.0 52v3.2 2v4.0 11v4.1 12v5.0 1v5.2 11v6.0 7v7.0 4v9.0 1v10.0 37v1.1",
  "2v3.0 3v16.0 22v0 11v1.1 21v0 139v1.1 20v3.2 1v4.0 150v1.1 10v3.2 80v1.1 8v3.0 8v3.2 20v1.1",
  "2v4.0 2v3.2 1v4.1 1v3.0 86v1.1 2v3.0 12v3.2 2v4.1 10v3.2 8v4.0 11v4.1 1v5.1 2v5.2 2v4.0 16v4.1",
  "1v5.0 10v5.1 3v5.2 4v5.1 10v5.2 1v6.0 19v5.2 1v6.0 1v5.2 4v6.0 24v5.2 1v7.0 4v1.1 1v6.0 4v1.1",
  "2v6.0 28v1.1 1v6.0 35v1.1 1v6.0 1v1.1 1v6.0 4v1.1 3v6.0 1v1.1 1v5.2 7v1.1 2v6.0 7v1.1 14v3.2",
  "31v1.1 3v6.0 24v1.1 1v6.0 14v1.1 1v6.0 7v4.1 4v5.0 1v6.1 1v5.1 1v6.1 2v6.0 28v3.2 4v5.1 16v3.2",
  "256v3.0 512v3.2 14v4.0 6v4.1 7v5.0 5v5.1 4v5.0 41v5.1 3v7.0 5v5.1 5v5.2 26v7.0 2v0 32v7.0 1v0",
  "1v13.0 34v7.0 3v11.0 12v7.0 1v12.0 8v7.0 1v10.0 25v11.0 4v8.0 15v11.0 1v12.0 47v4.1 1v14.0",
  "47v4.1 1v14.0 13v5.0 3v5.1 1v5.2 3v5.1 4v5.0 6v5.1 2v5.2 107v4.1 7v5.2 2v6.1 5v0 45v4.1 1v0",
  "1v6.1 5v0 1v6.1 2v0 54v4.1 2v6.1 7v0 1v4.1 1v6.0 14v0 1v6.0 23v4.1 9v0 7v4.1 1v0 7v4.1 1v0",
  "7v4.1 1v0 7v4.1 1v0 7v4.1 1v0 7v4.1 1v0 7v4.1 1v0 7v4.1 1v0 32v5.1 24v4.1 4v5.1 2v4.1 19v5.1",
  "1v5.2 10v6.1 7v7.0 2v9.0 5v10.0 5v11.0 1v12.0 3v13.0 11v14.0 34v0 26v3.0 1v0 89v3.0 12v0",
  "214v3.0 26v0 12v3.0 4v15.1 56v1.1 3v3.0 3v3.2 1v3.0 1v1.1 1v0 84v1.1 2v3.2 2v0 6v1.1 2v3.2",
  "94v1.1 1v3.2 5v0 40v1.1 1v5.1 1v10.0 1v11.0 1v0 94v1.1 1v0 16v1.1 24v3.0 3v6.0 5v13.0 16v4.1",
  "20v5.1 2v16.0 9v0 1v15.1 16v3.2 29v1.1 2v4.0 1v0 36v1.1 12v5.2 1v4.0 15v3.2 28v1.1 2v4.0 1v4.1",
  "50v1.1 15v3.2 12v1.1 4v4.0 47v1.1 1v12.1 119v1.1 4v4.0 99v1.1 2v4.0 31v1.1 1v4.0 6582v3.0",
  "10v13.0 64v4.0 20902v1.1 22v4.1 8v5.1 8v5.2 1v6.1 9v8.0 21v10.0 5v11.0 13v13.0 3v14.0 1165v3.0",
  "3v0 18v3.0 2v3.2 16v3.0 1v3.2 12v3.0 1v3.2 3v3.0 1v3.2 1v3.0 9v0 48v5.2 300v5.1 20v0 32v5.1",
  "2v6.0 18v5.1 8v6.1 28v5.1 6v7.0 1v8.0 1v6.1 88v5.2 8v0 23v4.1 4v5.0 5v5.1 2v5.0 107v5.1 2v6.0",
  "1v8.0 2v6.0 2v6.1 12v7.0 10v6.0 1v6.1 3v7.0 1v9.0 1v11.0 2v7.0 6v8.0 2v11.0 6v12.0 2v14.0",
  "5v12.0 4v13.0 3v16.0 2v0 2v14.0 1v0 1v14.0 1v0 5v14.0 3v16.0 21v0 3v14.0 2v13.0 1v7.0 2v6.1",
  "1v6.0 5v5.1 44v4.1 1v13.0 3v0 10v5.2 6v0 56v5.0 8v0 69v5.1 1v9.0 8v0 12v5.1 6v0 28v5.2 2v8.0",
  "2v11.0 84v5.1 11v0 1v5.1 29v5.2 3v0 78v5.2 1v0 11v5.2 4v0 2v5.2 31v7.0 1v0 55v5.1 9v0 14v5.1",
  "2v0 10v5.1 2v0 4v5.1 28v5.2 4v7.0 67v5.2 24v0 5v5.2 23v6.1 10v0 6v6.0 2v0 6v6.0 2v0 6v6.0 9v0",
  "7v6.0 1v0 7v6.0 1v0 48v7.0 4v8.0 2v7.0 2v12.0 4v13.0 4v0 80v8.0 46v5.2 2v0 10v5.2 6v0",
  "11172v2.0 12v0 23v5.2 4v0 49v5.2 4v0 2048v2.0 6702v1.1 2v6.1 59v3.2 3v5.2 2v0 106v4.1 38v0",
  "7v1.1 12v0 5v1.1 5v0 1v3.0 25v1.1 1v0 5v1.1 1v0 1v1.1 1v0 2v1.1 1v0 2v1.1 1v0 108v1.1 16v6.0",
  "1v14.0 16v0 365v1.1 16v14.0 64v1.1 2v0 54v1.1 7v0 1v14.0 32v3.1 12v1.1 1v3.2 1v4.0 2v14.0",
  "16v3.2 10v4.1 6v0 4v1.1 3v5.1 7v7.0 2v8.0 21v1.1 2v3.2 2v4.0 10v1.1 1v0 19v1.1 1v0 4v1.1 4v0",
  "3v1.1 1v3.2 1v1.1 1v0 135v1.1 2v0 1v1.1 1v0 94v1.1 2v3.2 94v1.1 3v0 6v1.1 2v0 6v1.1 2v0 6v1.1",
  "2v0 3v1.1 3v0 7v1.1 1v0 7v1.1 10v0 3v3.0 1v2.1 3v1.1 12v4.0 1v0 26v4.0 1v0 19v4.0 1v0 2v4.0",
  "1v0 15v4.0 2v0 14v4.0 34v0 123v4.0 5v0 3v4.0 4v0 45v4.0 3v0 9v4.0 75v4.1 2v7.0 2v9.0 1v0",
  "12v5.1 1v13.0 3v0 1v7.0 47v0 46v5.1 130v0 29v5.1 3v0 49v5.1 15v0 28v7.0 4v0 31v3.1 1v7.0 4v3.1",
  "9v0 3v10.0 27v3.1 5v0 43v7.0 5v0 30v4.0 1v0 1v4.0 36v4.1 4v0 14v4.1 42v0 38v3.1 2v4.0 38v3.1",
  "80v4.0 2v0 10v4.0 6v0 36v9.0 4v0 36v9.0 4v0 40v7.0 8v0 52v7.0 11v0 1v7.0 11v14.0 1v0 15v14.0",
  "1v0 7v14.0 1v0 2v14.0 1v0 11v14.0 1v0 15v14.0 1v0 7v14.0 1v0 2v14.0 3v0 52v16.0 12v0 311v7.0",
  "9v0 22v7.0 10v0 8v7.0 24v0 6v14.0 1v0 42v14.0 1v0 9v14.0 69v0 6v4.0 2v0 1v4.0 1v0 44v4.0 1v0",
  "2v4.0 3v0 1v4.0 2v0 1v4.0 22v5.2 1v0 9v5.2 63v7.0 8v0 9v7.0 48v0 19v8.0 1v0 2v8.0 5v0 5v8.0",
  "26v5.0 2v5.2 3v0 1v5.0 26v5.1 5v0 1v5.1 64v0 56v6.1 4v0 2v8.0 2v6.1 16v8.0 2v0 46v8.0 4v4.1",
  "1v0 2v4.1 5v0 8v4.1 1v0 3v4.1 1v0 27v4.1 2v11.0 2v0 3v4.1 4v0 9v4.1 1v11.0 7v0 9v4.1 7v0",
  "32v5.2 32v7.0 32v0 39v7.0 4v0 12v7.0 9v0 54v5.2 3v0 29v5.2 2v0 27v5.2 5v0 8v5.2 18v7.0 7v0",
  "4v7.0 12v0 7v7.0 80v0 73v5.2 55v0 51v8.0 13v0 51v8.0 7v0 6v8.0 40v11.0 8v0 10v11.0 6v0 38v16.0",
  "3v0 29v16.0 8v0 2v16.0 208v0 31v5.2 1v0 42v13.0 1v0 3v13.0 2v0 2v13.0 16v0 3v16.0 55v0 1v16.0",
  "3v15.0 40v11.0 8v0 42v11.0 22v0 26v14.0 38v0 28v13.0 20v0 23v12.0 9v0 78v6.0 4v0 30v6.0 6v14.0",
  "9v0 1v7.0 66v5.2 1v14.0 10v0 1v11.0 2v0 25v6.1 7v0 10v6.1 6v0 53v6.1 1v0 14v6.1 3v11.0 1v13.0",
  "8v0 39v7.0 9v0 73v6.1 4v8.0 1v7.0 2v13.0 10v6.1 1v7.0 5v8.0 1v0 20v7.0 11v0 18v7.0 1v0 43v7.0",
  "1v9.0 3v15.0 62v0 7v8.0 1v0 1v8.0 1v0 4v8.0 1v0 15v8.0 1v0 11v8.0 6v0 59v7.0 5v0 10v7.0 6v0",
  "1v8.0 3v7.0 1v0 8v7.0 2v0 2v7.0 2v0 22v7.0 1v0 7v7.0 1v0 2v7.0 1v0 5v7.0 1v0 1v11.0 9v7.0 2v0",
  "2v7.0 2v0 3v7.0 2v0 1v8.0 6v0 1v7.0 5v0 7v7.0 2v0 7v7.0 3v0 5v7.0 11v0 10v16.0 1v0 1v16.0 2v0",
  "1v16.0 1v0 38v16.0 1v0 10v16.0 1v0 1v16.0 2v0 1v16.0 1v0 4v16.0 1v0 10v16.0 1v0 2v16.0 8v0",
  "2v16.0 29v0 90v9.0 1v13.0 1v9.0 1v0 1v9.0 1v11.0 1v12.0 2v13.0 30v0 72v7.0 8v0 10v7.0 166v0",
  "54v7.0 2v0 18v7.0 20v8.0 34v0 69v7.0 11v0 10v7.0 6v0 13v9.0 19v0 56v6.1 1v12.0 1v14.0 6v0",
  "10v6.1 6v0 20v16.0 28v0 26v8.0 1v11.0 2v0 15v8.0 4v0 16v8.0 7v14.0 185v0 60v11.0 100v0 83v7.0",
  "12v0 1v7.0 7v13.0 2v0 1v13.0 2v0 8v13.0 1v0 2v13.0 1v0 30v13.0 1v0 2v13.0 2v0 12v13.0 9v0",
  "10v13.0 70v0 8v12.0 2v0 46v12.0 2v0 11v12.0 27v0 72v10.0 8v0 52v10.0 2v12.0 23v10.0 1v11.0",
  "5v10.0 13v0 16v14.0 57v7.0 7v0 10v15.0 182v0 34v16.0 14v0 10v16.0 6v0 9v9.0 1v0 45v9.0 1v0",
  "14v9.0 10v0 29v9.0 3v0 32v9.0 2v0 22v9.0 1v0 14v9.0 73v0 7v10.0 1v0 2v10.0 1v0 44v10.0 3v0",
  "1v10.0 1v0 2v10.0 1v0 9v10.0 8v0 10v10.0 6v0 6v11.0 1v0 2v11.0 1v0 37v11.0 1v0 2v11.0 1v0",
  "6v11.0 7v0 10v11.0 310v0 25v11.0 7v0 17v15.0 1v0 41v15.0 3v0 28v15.0 1v16.0 85v0 1v13.0 15v0",
  "50v12.0 13v0 1v12.0 879v5.0 42v7.0 1v8.0 102v0 99v5.0 12v7.0 1v0 4v5.0 1v7.0 11v0 196v8.0",
  "2636v0 99v14.0 13v0 1071v5.2 1v15.0 9v12.0 29v15.0 10v0 3995v16.0 5v0 583v8.0 6841v0 58v16.0",
  "1734v0 569v6.0 7v0 31v7.0 1v0 10v7.0 4v0 2v7.0 79v14.0 1v0 10v14.0 6v0 30v7.0 2v0 6v7.0 10v0",
  "70v7.0 10v0 10v7.0 1v0 7v7.0 1v0 21v7.0 5v0 19v7.0 432v0 58v16.0 198v0 91v11.0 101v0 69v6.1",
  "6v12.0 4v0 1v12.0 47v6.1 9v12.0 7v0 17v6.1 64v0 1v9.0 1v10.0 2v12.0 1v13.0 11v0 2v13.0 14v0",
  "6125v9.0 5v11.0 6v12.0 8v0 755v9.0 483v13.0 41v0 1v16.0 9v13.0 8935v0 4v14.0 1v0 7v14.0 1v0",
  "2v14.0 1v0 2v6.0 285v10.0 4v14.0 15v0 1v15.0 29v0 3v12.0 2v0 1v15.0 14v0 4v12.0 8v0 396v10.0",
  "2308v0 107v7.0 5v0 13v7.0 3v0 9v7.0 7v0 10v7.0 2v0 8v7.0 3932v0 250v16.0 6v0 436v16.0 76v0",
  "46v14.0 2v0 23v14.0 9v0 116v14.0 60v0 246v3.1 10v0 39v3.1 2v0 1v5.1 180v3.1 11v8.0 2v14.0 21v0",
  "70v4.1 122v0 20v15.0 12v0 20v11.0 12v0 87v4.0 9v0 18v5.0 7v11.0 135v0 85v3.1 1v0 71v3.1 1v0",
  "2v3.1 2v0 1v3.1 2v0 2v3.1 2v0 4v3.1 1v0 12v3.1 1v0 1v3.1 1v0 4v3.1 1v4.0 2v3.1 1v0 65v3.1 1v0",
  "4v3.1 2v0 8v3.1 1v0 7v3.1 1v0 28v3.1 1v0 4v3.1 1v0 5v3.1 1v0 1v3.1 3v0 7v3.1 1v0 338v3.1 2v4.1",
  "2v0 290v3.1 2v5.0 2v0 50v3.1 652v8.0 15v0 5v8.0 1v0 15v8.0 1104v0 31v14.0 6v0 6v15.0 213v0",
  "7v9.0 1v0 17v9.0 2v0 7v9.0 1v0 2v9.0 1v0 5v9.0 5v0 62v15.0 33v0 1v15.0 112v0 45v12.0 3v0",
  "14v12.0 2v0 10v12.0 4v0 2v12.0 320v0 31v14.0 17v0 58v12.0 5v0 1v12.0 464v0 42v15.0 214v0",
  "43v16.0 4v0 1v16.0 480v0 7v14.0 1v0 4v14.0 1v0 2v14.0 1v0 15v14.0 1v0 197v7.0 2v0 16v7.0 41v0",
  "75v9.0 1v12.0 4v0 10v9.0 4v0 2v9.0 785v0 68v11.0 76v0 61v12.0 194v0 4v6.1 1v0 27v6.1 1v0 2v6.1",
  "1v0 1v6.1 2v0 1v6.1 1v0 10v6.1 1v0 4v6.1 1v0 1v6.1 1v0 1v6.1 6v0 1v6.1 4v0 1v6.1 1v0 1v6.1 1v0",
  "1v6.1 1v0 3v6.1 1v0 2v6.1 1v0 1v6.1 2v0 1v6.1 1v0 1v6.1 1v0 1v6.1 1v0 1v6.1 1v0 1v6.1 1v0",
  "2v6.1 1v0 1v6.1 2v0 4v6.1 1v0 7v6.1 1v0 4v6.1 1v0 4v6.1 1v0 1v6.1 1v0 10v6.1 1v0 17v6.1 5v0",
  "3v6.1 1v0 5v6.1 1v0 17v6.1 52v0 2v6.1 270v0 44v5.1 4v0 100v5.1 12v0 15v6.0 2v0 14v6.0 1v7.0",
  "1v0 15v6.0 1v0 15v6.0 22v7.0 10v0 11v5.2 2v7.0 3v13.0 31v5.2 1v11.0 1v6.0 1v5.2 11v6.0 1v5.2",
  "1v6.0 1v5.2 2v6.0 1v5.2 3v6.0 1v5.2 3v6.0 5v5.2 8v6.0 1v5.2 7v6.0 1v5.2 10v6.0 2v6.1 1v12.0",
  "3v13.0 9v6.0 1v5.2 1v6.0 2v5.2 2v6.0 1v5.2 10v6.0 4v5.2 2v6.0 1v5.2 10v6.0 18v9.0 1v13.0 56v0",
  "26v6.0 1v5.2 2v6.0 13v0 34v5.2 9v6.0 1v9.0 4v0 9v5.2 7v0 2v6.0 14v0 6v10.0 154v0 33v6.0 12v7.0",
  "3v8.0 6v6.0 1v7.0 70v6.0 1v7.0 2v8.0 20v6.0 12v7.0 37v6.0 1v7.0 5v6.0 4v7.0 5v8.0 12v7.0",
  "17v6.0 7v7.0 8v8.0 63v6.0 1v7.0 1v6.0 1v7.0 182v6.0 1v7.0 4v6.0 2v7.0 1v8.0 62v6.0 2v7.0 4v6.1",
  "7v7.0 5v8.0 24v6.0 18v7.0 1v9.0 41v7.0 1v9.0 86v7.0 5v6.0 1v6.1 16v6.0 1v6.1 3v6.0 1v6.1 1v6.0",
  "1v6.1 1v6.0 1v6.1 1v6.0 1v6.1 3v6.0 1v6.1 6v6.0 2v6.1 4v6.0 1v6.1 1v6.0 2v6.1 4v6.0 1v6.1",
  "12v6.0 2v7.0 2v8.0 11v6.0 48v7.0 70v6.0 10v7.0 1v8.0 2v9.0 2v10.0 1v12.0 2v13.0 4v0 1v15.0",
  "3v14.0 13v7.0 3v0 4v7.0 3v9.0 2v10.0 1v11.0 1v12.0 2v13.0 3v0 116v6.0 3v15.0 4v0 5v15.0 85v7.0",
  "4v11.0 1v15.0 6v0 12v12.0 4v0 1v14.0 15v0 12v7.0 4v0 56v7.0 8v0 10v7.0 6v0 40v7.0 8v0 30v7.0",
  "2v0 2v13.0 10v16.0 4v0 2v16.0 62v0 12v10.0 1v13.0 3v12.0 9v8.0 6v9.0 1v10.0 8v9.0 8v10.0 1v9.0",
  "2v10.0 12v9.0 1v12.0 12v9.0 1v10.0 3v11.0 15v9.0 13v10.0 5v11.0 1v12.0 1v13.0 4v11.0 2v13.0",
  "1v14.0 1v11.0 1v12.0 4v11.0 5v8.0 13v9.0 6v10.0 11v11.0 2v13.0 6v12.0 3v13.0 2v12.0 10v11.0",
  "6v12.0 1v8.0 2v11.0 8v12.0 1v13.0 1v14.0 3v12.0 23v10.0 25v11.0 84v12.0 12v0 14v11.0 2v0",
  "4v12.0 1v13.0 3v15.0 3v12.0 2v14.0 3v0 3v12.0 4v13.0 2v15.0 1v16.0 5v0 1v16.0 6v12.0 19v13.0",
  "4v14.0 3v15.0 7v13.0 4v14.0 3v15.0 1v16.0 1v15.0 3v13.0 3v14.0 1v16.0 7v0 2v15.0 7v13.0 3v14.0",
  "2v15.0 1v16.0 2v0 1v16.0 8v14.0 1v15.0 1v16.0 6v0 7v14.0 2v15.0 7v0 147v13.0 1v0 55v13.0",
  "37v16.0 10v13.0 1028v0 2v2.0 42711v3.1 7v13.0 2v14.0 32v0 4149v5.2 4v14.0 1v15.0 6v0 222v6.0",
  "2v0 5762v8.0 14v0 7473v10.0 15v0 622v15.1 2466v0 542v3.1 1504v0 2v2.0 4939v13.0 5v0 4192v15.0",
  "56398v0 2v2.0 65534v0 2v2.0 65534v0 2v2.0 65534v0 2v2.0 65534v0 2v2.0 65534v0 2v2.0 65534v0",
  "2v2.0 65534v0 2v2.0 65534v0 2v2.0 65534v0 2v2.0 65534v0 2v2.0 1v0 1v3.1 30v0 96v3.1 128v0",
  "240v4.0 65038v0 131074v2.0"]

end JsonValidators.Unicode
